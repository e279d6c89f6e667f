import Tunnel.Address.Ipv4

/-!
# IPv6 text

Eight groups of sixteen bits in hexadecimal, between colons.  A run of zero
groups may be left out once, as `::`, and the last two groups may be written
as an IPv4 address.  Reading takes every such form; writing leaves out the
longest run of at least two zero groups, the first of equally long ones, and
writes an address that maps an IPv4 address in the mixed form.
-/

namespace Tunnel.Ipv6

/-! ## Groups -/

/-- The groups of a string of octets. -/
def groups : List UInt8 → List Nat
  | high :: low :: rest => (256 * high.toNat + low.toNat) :: groups rest
  | _ => []

/-- The octets of groups. -/
def octets (groups : List Nat) : List UInt8 :=
  groups.flatMap fun group => bigEndian 2 group

/-! ## Reading -/

/-- One group: one to four digits. -/
def group? (text : List Char) : Option Nat := do
  guard (text ≠ [] ∧ text.length ≤ 4)
  Numeral.value? 16 text

/-- The two groups that the octets of an IPv4 address make. -/
def mixed? (text : List Char) : Option (List Nat) :=
  (Ipv4.parse? text).map groups

/-- Groups between colons, of which the last two may be an IPv4 address. -/
def groupList? : List (List Char) → Option (List Nat)
  | [] => some []
  | [last] => (mixed? last).or ((group? last).map ([·]))
  | item :: rest => do
      let group ← group? item
      let more ← groupList? rest
      return group :: more

/-- One side of the omitted run; it may be empty. -/
def side? (text : List Char) : Option (List Nat) :=
  if text = [] then some [] else groupList? (Text.split ':' text)

/-- The side before the omitted run, which has no IPv4 address. -/
def front? (text : List Char) : Option (List Nat) :=
  if text = [] then some [] else (Text.split ':' text).mapM group?

/-- The text before and after the first `::`. -/
def splitGap? : List Char → Option (List Char × List Char)
  | ':' :: ':' :: rest => some ([], rest)
  | character :: rest =>
      (splitGap? rest).map fun (before, after) =>
        (character :: before, after)
  | [] => none

/-- The eight groups of an address. -/
def parseGroups? (text : List Char) : Option (List Nat) :=
  match splitGap? text with
  | none => do
      let all ← groupList? (Text.split ':' text)
      guard (all.length = 8)
      return all
  | some (before, after) => do
      let front ← front? before
      let back ← side? after
      guard (front.length + back.length ≤ 7)
      return front ++ List.replicate (8 - front.length - back.length) 0 ++ back

/-- The octets of an address. -/
def parse? (text : List Char) : Option (List UInt8) :=
  (parseGroups? text).map octets

/-! ## Writing -/

/-- The count of zero groups at the front. -/
def zeroRun (groups : List Nat) : Nat :=
  (groups.takeWhile (· = 0)).length

/-- Where the longest run of zeros starts and how long it is. -/
def longestRun : List Nat → Nat × Nat
  | [] => (0, 0)
  | group :: rest =>
      let here := zeroRun (group :: rest)
      let (start, length) := longestRun rest
      if length ≤ here then (0, here) else (start + 1, length)

/-- Groups in hexadecimal, between colons. -/
def renderGroups (groups : List Nat) : List Char :=
  Text.join [':'] (groups.map (Numeral.render 16))

/-- The text of eight groups, with the longest run of zeros left out. -/
def renderShort (groups : List Nat) : List Char :=
  let (start, length) := longestRun groups
  if 2 ≤ length then
    renderGroups (groups.take start) ++ [':', ':'] ++
      renderGroups (groups.drop (start + length))
  else renderGroups groups

/-- The text of an address. -/
def render (octets : List UInt8) : List Char :=
  match groups octets with
  | [0, 0, 0, 0, 0, 0xFFFF, _, _] =>
      "::ffff:".toList ++ Ipv4.render (octets.drop 12)
  | all => renderShort all

end Tunnel.Ipv6
