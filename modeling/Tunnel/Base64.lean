import Tunnel.Text.Basic

/-!
# Base64

The standard alphabet with canonical padding: four characters for each three
octets, a last group of two or three characters filled up with `=`, and no
bits left over.  Reading is strict, so a string of octets has one spelling;
what is wrong with any other text is a `Fault`, which names the octet and the
place where reading stopped.
-/

namespace Tunnel.Base64

/-- Why a text is not base64. -/
inductive Fault
  | symbol (octet : UInt8) (offset : Nat)
  | length (count : Nat)
  | padding
  | lastSymbol (octet : UInt8) (offset : Nat)
deriving DecidableEq

/-- The wording of a fault. -/
def Fault.message : Fault → String
  | .symbol octet offset =>
      s!"Invalid symbol {octet.toNat}, offset {offset}."
  | .length count => s!"Invalid input length: {count}"
  | .padding => "Invalid padding"
  | .lastSymbol octet offset =>
      s!"Invalid last symbol {octet.toNat}, offset {offset}."

/-! ## The alphabet -/

/-- The character of a six-bit value. -/
def symbol (value : Nat) : UInt8 :=
  if value < 26 then UInt8.ofNat (65 + value)
  else if value < 52 then UInt8.ofNat (71 + value)
  else if value < 62 then UInt8.ofNat (value - 4)
  else if value = 62 then 43
  else 47

/-- The six-bit value of a character. -/
def value? (octet : UInt8) : Option Nat :=
  let code := octet.toNat
  if 65 ≤ code ∧ code ≤ 90 then some (code - 65)
  else if 97 ≤ code ∧ code ≤ 122 then some (code - 71)
  else if 48 ≤ code ∧ code ≤ 57 then some (code + 4)
  else if code = 43 then some 62
  else if code = 47 then some 63
  else none

/-- The padding character `=`. -/
def pad : UInt8 := 61

/-! ## Writing -/

/-- The characters of a string of octets. -/
def encode : List UInt8 → List UInt8
  | first :: second :: third :: rest =>
      let group := 65536 * first.toNat + 256 * second.toNat + third.toNat
      symbol (group / 262144) :: symbol (group / 4096 % 64) ::
        symbol (group / 64 % 64) :: symbol (group % 64) :: encode rest
  | [first, second] =>
      let group := 1024 * first.toNat + 4 * second.toNat
      [symbol (group / 4096), symbol (group / 64 % 64),
        symbol (group % 64), pad]
  | [first] =>
      let group := 16 * first.toNat
      [symbol (group / 64), symbol (group % 64), pad, pad]
  | [] => []

/-! ## Reading -/

/-- The octets of six-bit values; a last group gives one or two. -/
def octetsOf : List Nat → List UInt8
  | first :: second :: third :: fourth :: rest =>
      let group :=
        262144 * first + 4096 * second + 64 * third + fourth
      UInt8.ofNat (group / 65536) :: UInt8.ofNat (group / 256) ::
        UInt8.ofNat group :: octetsOf rest
  | [first, second, third] =>
      let group := 4096 * first + 64 * second + third
      [UInt8.ofNat (group / 1024), UInt8.ofNat (group / 4)]
  | [first, second] => [UInt8.ofNat ((64 * first + second) / 16)]
  | _ => []

/-- The values of a stretch that may hold symbols only. -/
def frontValues (offset : Nat) : List UInt8 → Except Fault (List Nat)
  | [] => .ok []
  | octet :: rest =>
      match value? octet with
      | none => .error (.symbol octet offset)
      | some value =>
          match frontValues (offset + 1) rest with
          | .error fault => .error fault
          | .ok values => .ok (value :: values)

/-- The last group: its values and the count of padding characters. -/
structure Tail where
  values : List Nat := []
  padding : Nat := 0
  /-- Where the padding starts, when there is any. -/
  firstPad : Nat := 0

/--
Read the last group from its `index`th character on.  Padding comes after at
least two characters, and no symbol comes after padding.
-/
def tailValues (start : Nat) :
    (index : Nat) → Tail → List UInt8 → Except Fault Tail
  | _, tail, [] => .ok tail
  | index, tail, octet :: rest =>
      if octet = pad then
        if index < 2 then .error (.symbol pad (start + index))
        else
          tailValues start (index + 1)
            { tail with
              padding := tail.padding + 1
              firstPad :=
                if tail.padding = 0 then start + index else tail.firstPad }
            rest
      else if tail.padding ≠ 0 then .error (.symbol pad tail.firstPad)
      else
        match value? octet with
        | none => .error (.symbol octet (start + index))
        | some value =>
            tailValues start (index + 1)
              { tail with values := tail.values ++ [value] } rest

/-- The bits of the last value that no octet takes. -/
def spareBits (values : List Nat) : Nat :=
  match values with
  | [_, second] => second % 16
  | [_, _, third] => third % 4
  | _ => 0

/-- Where the last group of a text of some length starts. -/
def tailStart (length : Nat) : Nat :=
  length - (if length % 4 = 0 then 4 else length % 4)

/-- The octets that a text spells. -/
def decode (text : List UInt8) : Except Fault (List UInt8) := do
  let start := tailStart text.length
  if let some last := text.getLast? then
    if text.length % 4 = 1 ∧ last ≠ pad ∧ value? last = none then
      throw (.symbol last (text.length - 1))
  let front ← frontValues 0 (text.take start)
  let tail ← tailValues start 0 {} (text.drop start)
  if text ≠ [] ∧ tail.values.length < 2 then
    throw (.length (start + tail.values.length))
  if (tail.padding + tail.values.length) % 4 ≠ 0 then
    throw .padding
  if spareBits tail.values ≠ 0 then
    let last := start + tail.values.length - 1
    throw (.lastSymbol (text[last]?.getD 0) last)
  return octetsOf (front ++ tail.values)

/-! ## The alphabet is a table of sixty-four distinct symbols -/

theorem value?_symbol {value : Nat} (small : value < 64) :
    value? (symbol value) = some value := by
  have read : ∀ number : Fin 64,
      value? (symbol number) = some number.val := by decide
  exact read ⟨value, small⟩

theorem value?_pad : value? pad = none := by decide

theorem value?_lt {octet : UInt8} {value : Nat}
    (found : value? octet = some value) : value < 64 := by
  unfold value? at found
  grind

end Tunnel.Base64
