/-!
# Reading UTF-8 that may be broken

Names come from the kernel as octets.  Octets that spell no character read as
the replacement character, once for each longest stretch that begins like a
character and does not go on like one.
-/

namespace Tunnel.Text

/-- The replacement character. -/
def replacement : Char := '\ufffd'

/-- What a first octet asks of the octets after it. -/
structure Opening where
  /-- How many octets follow. -/
  following : Nat
  /-- The bits of the first octet that count. -/
  bits : Nat
  /-- The least and the greatest second octet. -/
  least : Nat := 0x80
  greatest : Nat := 0xBF

/-- The characters of several octets that a first octet opens. -/
def opening? (octet : Nat) : Option Opening :=
  if 0xC2 ≤ octet ∧ octet ≤ 0xDF then
    some { following := 1, bits := octet - 0xC0 }
  else if octet = 0xE0 then
    some { following := 2, bits := 0, least := 0xA0 }
  else if octet = 0xED then
    some { following := 2, bits := 0x0D, greatest := 0x9F }
  else if 0xE1 ≤ octet ∧ octet ≤ 0xEF then
    some { following := 2, bits := octet - 0xE0 }
  else if octet = 0xF0 then
    some { following := 3, bits := 0, least := 0x90 }
  else if 0xF1 ≤ octet ∧ octet ≤ 0xF3 then
    some { following := 3, bits := octet - 0xF0 }
  else if octet = 0xF4 then
    some { following := 3, bits := 4, greatest := 0x8F }
  else none

/-- A character of which some octets are still to come. -/
structure Unfinished where
  missing : Nat
  bits : Nat
  least : Nat
  greatest : Nat

/-- Read on, with a character at hand or not. -/
def readUtf8 : Option Unfinished → List UInt8 → List Char
  | none, [] => []
  | some _, [] => [replacement]
  | none, octet :: rest => fresh octet.toNat rest
  | some unfinished, octet :: rest =>
      if unfinished.least ≤ octet.toNat ∧
          octet.toNat ≤ unfinished.greatest then
        let bits := 64 * unfinished.bits + octet.toNat % 64
        if unfinished.missing ≤ 1 then
          Char.ofNat bits :: readUtf8 none rest
        else
          readUtf8
            (some
              { missing := unfinished.missing - 1
                bits
                least := 0x80
                greatest := 0xBF })
            rest
      else replacement :: fresh octet.toNat rest
where
  /-- Begin a character with an octet. -/
  fresh (octet : Nat) (rest : List UInt8) : List Char :=
    if octet < 0x80 then Char.ofNat octet :: readUtf8 none rest
    else
      match opening? octet with
      | none => replacement :: readUtf8 none rest
      | some opening =>
          readUtf8
            (some
              { missing := opening.following
                bits := opening.bits
                least := opening.least
                greatest := opening.greatest })
            rest

/-- The text of octets. -/
def ofUtf8 (octets : List UInt8) : List Char :=
  readUtf8 none octets

end Tunnel.Text
