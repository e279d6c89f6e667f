import Tunnel.Netlink.Request
import Tunnel.Proofs.Netlink.Packet

/-!
# Attributes that were written

An attribute whose length fits into its field reads back without the flags of
its type, and what follows its padding is read as if it stood at the start
(`Attribute.readThrough_append`).  A request to which attributes are appended
holds them one after another behind its header (`Request.Holds`), so reading
its body gives them back and leaves nothing (`Request.Holds.readThrough_drop`),
and its octets are one packet.
-/

namespace Tunnel.Netlink

/-! ## Alignment -/

section Alignment

variable {aligned : Nat} (whole : aligned % 4 = 0) (length : Nat)

include whole

theorem align_add : align (aligned + length) = aligned + align length := by
  unfold align
  omega

/-- What stands before at an aligned place does not change the padding. -/
theorem padding_add : padding (aligned + length) = padding length := by
  unfold padding
  rw [align_add whole, Nat.add_sub_add_left]

end Alignment

theorem align_mod (length : Nat) : align length % 4 = 0 :=
  Nat.mul_mod_left _ _

/-! ## Attributes -/

namespace Attribute

/-- The most octets of a value whose length fits into its field. -/
def widest : Nat := 65531

/-- An attribute as it is read: without the flags of its type. -/
def plain (entry : Attribute) : Attribute :=
  { entry with type := entry.type &&& attributeTypeMask }

section Written

variable (entry : Attribute) (rest : List UInt8)

/-- The parts of an attribute, one after another. -/
theorem toOctets_append :
    entry.toOctets ++ rest =
      littleEndian 2 (attributeHeader + entry.value.length) ++
        (littleEndian 2 entry.type.toNat ++
          (entry.value ++
            (padding (attributeHeader + entry.value.length) ++ rest))) := by
  simp only [toOctets, List.append_assoc]

theorem length_toOctets :
    entry.toOctets.length =
      align (attributeHeader + entry.value.length) := by
  have wide := le_align (attributeHeader + entry.value.length)
  simp only [toOctets, List.length_append, length_littleEndian,
    length_padding, attributeHeader] at wide ⊢
  omega

theorem length_flatMap_mod (attributes : List Attribute) :
    (attributes.flatMap toOctets).length % 4 = 0 := by
  induction attributes with
  | nil => rfl
  | cons entry attributes ih =>
      have first := align_mod (attributeHeader + entry.value.length)
      rw [List.flatMap_cons, List.length_append, length_toOctets]
      omega

end Written

variable {entry : Attribute} {attributes : List Attribute}

/-- An attribute reads back, and what follows it is left. -/
theorem read?_append (fits : entry.value.length ≤ widest)
    (rest : List UInt8) :
    read? (entry.toOctets ++ rest) = some (entry.plain, rest) := by
  have wide := le_align (attributeHeader + entry.value.length)
  have small : attributeHeader + entry.value.length < 256 ^ 2 := by
    unfold attributeHeader
    unfold widest at fits
    omega
  have length : wordAt 2 (entry.toOctets ++ rest) =
      attributeHeader + entry.value.length := by
    rw [toOctets_append, wordAt_littleEndian _ small]
  have type : UInt16.ofNat (wordAt 2 ((entry.toOctets ++ rest).drop 2)) =
      entry.type := by
    rw [toOctets_append, drop_littleEndian, wordAt_word16]
  have total : (entry.toOctets ++ rest).length =
      align (attributeHeader + entry.value.length) + rest.length := by
    rw [List.length_append, length_toOctets]
  have beyond : (entry.toOctets ++ rest).drop attributeHeader =
      entry.value ++
        (padding (attributeHeader + entry.value.length) ++ rest) := by
    rw [toOctets_append, show attributeHeader = 2 + 2 from rfl,
      drop_littleEndian_add, drop_littleEndian]
  have value : ((entry.toOctets ++ rest).take
      (attributeHeader + entry.value.length)).drop attributeHeader =
      entry.value := by
    rw [List.drop_take, beyond, Nat.add_sub_cancel_left]
    exact List.take_left' rfl
  have filled : (entry.toOctets ++ rest).drop
      (attributeHeader + entry.value.length) =
      padding (attributeHeader + entry.value.length) ++ rest := by
    rw [← List.drop_drop, beyond]
    exact List.drop_left' rfl
  unfold read?
  simp only [length, type, value, filled, total]
  rw [if_pos ⟨by omega, by omega, by omega⟩,
    if_pos (by simp only [List.length_append, length_padding]; omega)]
  rw [List.drop_left' (length_padding _)]
  rfl

theorem readThrough_of_read? {octets rest : List UInt8}
    (found : read? octets = some (entry, rest)) :
    readThrough octets =
      (entry :: (readThrough rest).1, (readThrough rest).2) := by
  rw [readThrough]
  split
  · next missing =>
      rw [found] at missing
      cases missing
  · next first others same =>
      rw [found] at same
      cases same
      rfl

@[simp]
theorem readThrough_nil : readThrough [] = ([], []) := by
  rw [readThrough]
  rfl

/-- What follows an attribute that fits is read as if it stood first. -/
theorem readThrough_append (fits : entry.value.length ≤ widest)
    (rest : List UInt8) :
    readThrough (entry.toOctets ++ rest) =
      (entry.plain :: (readThrough rest).1, (readThrough rest).2) :=
  readThrough_of_read? (read?_append fits rest)

/--
Attributes that were written one after another read back, and nothing is left.
-/
theorem readThrough_flatMap
    (fit : ∀ entry ∈ attributes, entry.value.length ≤ widest) :
    readThrough (attributes.flatMap toOctets) =
      (attributes.map plain, []) := by
  induction attributes with
  | nil => exact readThrough_nil
  | cons entry attributes ih =>
      obtain ⟨first, others⟩ := List.forall_mem_cons.1 fit
      rw [List.flatMap_cons, List.map_cons, readThrough_append first,
        ih others]

end Attribute

/-! ## Requests -/

namespace Request

variable {request : Request} {header : List UInt8}
  {attributes : List Attribute}

/-- A request holds a header and attributes after it, each with its padding. -/
structure Holds (request : Request) (header : List UInt8)
    (attributes : List Attribute) : Prop where
  body : request.body = header ++ attributes.flatMap Attribute.toOctets
  aligned : header.length % 4 = 0

namespace Holds

theorem length_body_mod (holds : request.Holds header attributes) :
    request.body.length % 4 = 0 := by
  have aligned := holds.aligned
  have others := Attribute.length_flatMap_mod attributes
  rw [holds.body, List.length_append]
  omega

/-- A header that is appended to an empty request needs no padding. -/
theorem start (empty : request.body = [])
    (aligned : header.length % 4 = 0) :
    (request.append header).Holds header [] where
  body := by
    have whole : (request.length + header.length) % 4 = 0 := by
      rw [length, empty, headerSize, List.length_nil]
      omega
    simp only [append, empty, List.nil_append, List.flatMap_nil]
    rw [padding, align_of_dvd whole, Nat.sub_self]
    rfl
  aligned

/-- An attribute is appended behind those that are there. -/
theorem withAttribute (holds : request.Holds header attributes)
    (type : UInt16) (value : List UInt8) :
    (request.withAttribute type value).Holds header
      (attributes ++ [⟨type, value⟩]) where
  body := by
    have whole : request.length % 4 = 0 := by
      have aligned := holds.length_body_mod
      rw [length, headerSize]
      omega
    have width : (littleEndian 2 (attributeHeader + value.length) ++
        littleEndian 2 type.toNat ++ value).length =
        attributeHeader + value.length := by
      simp only [List.length_append, length_littleEndian, attributeHeader]
    simp only [Request.withAttribute, append]
    rw [padding_add whole, width, holds.body, List.flatMap_append,
      List.flatMap_singleton, Attribute.toOctets]
    simp only [List.append_assoc]
  aligned := holds.aligned

/-- The attributes of a request read back from its body, to the end. -/
theorem readThrough_drop (holds : request.Holds header attributes)
    (fit : ∀ entry ∈ attributes, entry.value.length ≤ Attribute.widest) :
    Attribute.readThrough (request.body.drop header.length) =
      (attributes.map Attribute.plain, []) := by
  rw [holds.body, List.drop_left' rfl, Attribute.readThrough_flatMap fit]

end Holds

/-- The packet that a request is. -/
def toPacket (request : Request) : Packet where
  header := request.header
  payload := request.body

theorem length_toOctets (request : Request) :
    request.toOctets.length = request.length := by
  rw [toOctets, List.length_append, Header.length_toOctets, length]

/-- The octets of a request are one packet. -/
theorem readAll_toOctets (aligned : request.body.length % 4 = 0)
    (short : request.length < 2 ^ 32) :
    Packet.readAll request.toOctets = [.ok request.toPacket] := by
  have framed : request.toPacket.IsFrame request.toOctets :=
    { length := UInt32.toNat_ofNat_of_lt' short
      begins := List.prefix_rfl
      filled := by
        have whole : request.length % 4 = 0 := by
          rw [length, headerSize]
          omega
        rw [length_toOctets]
        exact (align_of_dvd whole).symm }
  have read := framed.readAll_append []
  rwa [List.append_nil, Packet.readAll_nil] at read

end Request

end Tunnel.Netlink
