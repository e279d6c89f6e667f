import Tunnel.Address.Basic

/-!
# Attributes

The payload of a routing message ends in attributes: a length and a type of
16 bits each, the octets of the value, and zeros up to a multiple of four.
The two highest bits of a type are flags and do not count.  Reading stops
without an error at the first attribute that is cut short.
-/

namespace Tunnel.Netlink

/-- An attribute. -/
structure Attribute where
  type : UInt16
  value : List UInt8
deriving DecidableEq

/-- The size of an attribute's length and type. -/
def attributeHeader : Nat := 4

/-- The bits of a type that are not flags. -/
def attributeTypeMask : UInt16 := 0x3FFF

/-- A little-endian word at the start of some octets. -/
def wordAt (width : Nat) (octets : List UInt8) : Nat :=
  littleEndianValue (octets.take width)

namespace Attribute

/-- The first attribute, and the octets after it and its padding. -/
def read? (octets : List UInt8) : Option (Attribute × List UInt8) :=
  let length := wordAt 2 octets
  if attributeHeader ≤ octets.length ∧ attributeHeader ≤ length ∧
      length ≤ octets.length then
    let type := UInt16.ofNat (wordAt 2 (octets.drop 2)) &&& attributeTypeMask
    let value := (octets.take length).drop attributeHeader
    let rest := octets.drop length
    let filler := align length - length
    some ({ type, value },
      if filler ≤ rest.length then rest.drop filler else rest)
  else none

theorem length_read? {octets rest : List UInt8} {entry : Attribute}
    (found : read? octets = some (entry, rest)) :
    rest.length < octets.length := by
  unfold read? at found
  simp only at found
  split at found
  · next inside =>
      obtain ⟨_, long, within⟩ := inside
      have positive : 0 < wordAt 2 octets :=
        Nat.lt_of_lt_of_le (by decide) long
      simp only [Option.some.injEq, Prod.mk.injEq] at found
      obtain ⟨_, rfl⟩ := found
      split <;> simp only [List.length_drop] <;> omega
  · cases found

/--
All attributes up to the first that is cut short, and the octets that are left
behind them.  Of the attribute that is cut short the length and the type are
used up.
-/
def readThrough (octets : List UInt8) : List Attribute × List UInt8 :=
  match _found : read? octets with
  | none =>
      ([], if attributeHeader ≤ octets.length then octets.drop attributeHeader
        else octets)
  | some (entry, rest) =>
      let (others, left) := readThrough rest
      (entry :: others, left)
termination_by octets.length
decreasing_by exact length_read? _found

/-- All attributes up to the first that is cut short. -/
def readAll (octets : List UInt8) : List Attribute :=
  (readThrough octets).1

/-- An attribute with its padding. -/
def toOctets (entry : Attribute) : List UInt8 :=
  let length := attributeHeader + entry.value.length
  littleEndian 2 length ++ littleEndian 2 entry.type.toNat ++
    entry.value ++ padding length

end Attribute

/-! ## Values -/

/-- The number of an address family in routing messages. -/
def familyNumber : Family → UInt8
  | .ipv4 => 2
  | .ipv6 => 10

/-- The family of a number. -/
def family? (number : UInt8) : Option Family :=
  if number = 2 then some .ipv4
  else if number = 10 then some .ipv6
  else none

@[simp]
theorem family?_familyNumber (family : Family) :
    family? (familyNumber family) = some family := by
  cases family <;> rfl

/-- The address in a value, for the family of a message. -/
def address? (value : List UInt8) (family : UInt8) : Option IpAddress :=
  (family? family).bind fun family => IpAddress.take? family value

/-- The 32-bit number in a value. -/
def word32? (value : List UInt8) : Option UInt32 :=
  if 4 ≤ value.length then some (UInt32.ofNat (wordAt 4 value)) else none

end Tunnel.Netlink
