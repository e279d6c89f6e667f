import Mathlib.Logic.Function.Iterate
import Tunnel.Proofs.Image.Layout
import Tunnel.Proofs.Image.NormalForm

/-!
# Walking an image by its own counts

An image says by itself where its records are: the interface record counts the
peers, and the record of each peer counts its networks, so that each peer tells
where the next one starts.  `IsRecord` lists the records that are found in this
way, and `IsSelfDelimiting` says that none of them reaches over the end and
that families and lengths are known ones.  Both look at octets of the image by
their offsets only.

What is shown here is one half: an image that was read is self-delimiting
(`isSelfDelimiting_of_decode`).
-/

namespace Tunnel.Image

/-! ## Records by their counts -/

/-- The number in some octets of an image, least significant octet first. -/
def numberAt (image : List UInt8) (offset width : Nat) : Nat :=
  littleEndianValue ((image.drop offset).take width)

/-- How many peers the interface record counts. -/
def peerCount (image : List UInt8) : Nat :=
  numberAt image 72 4

/-- How many networks the record of a peer counts. -/
def networkCount (image : List UInt8) (place : Nat) : Nat :=
  numberAt image (place + 128) 4

/-- Where the last network of a peer ends. -/
def peerEnd (image : List UInt8) (place : Nat) : Nat :=
  place + 136 + 24 * networkCount image place

/-- Where a peer starts, each behind the one before it. -/
def peerPlace (image : List UInt8) (index : Nat) : Nat :=
  (peerEnd image)^[index] 80

/-- Where the last record ends. -/
def recordsEnd (image : List UInt8) : Nat :=
  peerPlace image (peerCount image)

/-- The records that an image counts, with their offsets and sizes. -/
inductive IsRecord (image : List UInt8) : (place size : Nat) → Prop
  | interface : IsRecord image 0 80
  | peer {index : Nat} (counted : index < peerCount image) :
      IsRecord image (peerPlace image index) 136
  | network {index number : Nat} (counted : index < peerCount image)
      (listed : number < networkCount image (peerPlace image index)) :
      IsRecord image (peerPlace image index + 136 + 24 * number) 24

/-! ## Records that can be read -/

/-- A network of a known family that is no longer than its address. -/
def IsNetworkAt (image : List UInt8) (place : Nat) : Prop :=
  (numberAt image (place + 16) 2 = 2 ∧
      numberAt image (place + 18) 1 ≤ 32) ∨
    (numberAt image (place + 16) 2 = 23 ∧
      numberAt image (place + 18) 1 ≤ 128)

/-- A peer whose endpoint, if it is there, and networks can be read. -/
structure IsPeerAt (image : List UInt8) (place : Nat) : Prop where
  /-- Bit 3 of the flags says that the endpoint is there. -/
  endpoint : (numberAt image place 4).testBit 3 = true →
    numberAt image (place + 76) 2 = 2 ∨ numberAt image (place + 76) 2 = 23
  networks : ∀ number < networkCount image place,
    IsNetworkAt image (place + 136 + 24 * number)

/-- An image that holds all records that it counts, and can be read. -/
structure IsSelfDelimiting (image : List UInt8) : Prop where
  inside : recordsEnd image ≤ image.length
  peers : ∀ index < peerCount image, IsPeerAt image (peerPlace image index)

/-! ## Places -/

theorem le_peerEnd (image : List UInt8) (place : Nat) :
    place ≤ peerEnd image place := by
  simp only [peerEnd, Nat.add_assoc]
  exact Nat.le_add_right _ _

theorem le_iterate_peerEnd (image : List UInt8) (count place : Nat) :
    place ≤ (peerEnd image)^[count] place := by
  induction count generalizing place with
  | zero => exact Nat.le_refl place
  | succ count ih =>
      rw [Function.iterate_succ_apply]
      exact (le_peerEnd image place).trans (ih (peerEnd image place))

theorem peerPlace_succ (image : List UInt8) (index : Nat) :
    peerPlace image (index + 1) = peerEnd image (peerPlace image index) :=
  Function.iterate_succ_apply' (peerEnd image) index 80

/-- An offset behind the interface record lies between two places. -/
theorem exists_peerPlace {image : List UInt8} {count offset : Nat}
    (start : 80 ≤ offset) (below : offset < peerPlace image count) :
    ∃ index < count, peerPlace image index ≤ offset ∧
      offset < peerPlace image (index + 1) := by
  induction count with
  | zero => exact absurd start (Nat.not_le.2 below)
  | succ count ih =>
      by_cases earlier : offset < peerPlace image count
      · rcases ih earlier with ⟨index, smaller, between⟩
        exact ⟨index, Nat.lt_succ_of_lt smaller, between⟩
      · exact ⟨count, Nat.lt_succ_self count, Nat.not_lt.1 earlier, below⟩

/-- Every offset in front of the end lies in a record. -/
theorem exists_isRecord {image : List UInt8} {offset : Nat}
    (below : offset < recordsEnd image) :
    ∃ place size, IsRecord image place size ∧
      place ≤ offset ∧ offset < place + size := by
  by_cases first : offset < 80
  · exact ⟨0, 80, .interface, Nat.zero_le _, by omega⟩
  · rcases exists_peerPlace (Nat.not_lt.1 first) below with
      ⟨index, counted, behind, before⟩
    rw [peerPlace_succ, peerEnd] at before
    by_cases inPeer : offset < peerPlace image index + 136
    · exact ⟨_, _, .peer counted, behind, inPeer⟩
    · let number := (offset - (peerPlace image index + 136)) / 24
      have listed : number < networkCount image (peerPlace image index) :=
        Nat.div_lt_of_lt_mul (by omega)
      exact ⟨_, _, .network counted listed, by omega, by omega⟩

/-! ## Fields at their offsets -/

section Fields

variable {image : List UInt8} {place size : Nat} {record : Octets size}

/-- A field of a record stands in the image at its own offset. -/
theorem holds_slice (held : Holds image place record.toList)
    {field width : Nat} (inside : field + width ≤ size) :
    Holds image (place + field) (record.slice field width inside).toList := by
  have parts : record.toList = record.toList.take field ++
      ((record.slice field width inside).toList ++
        record.toList.drop (field + width)) := by
    rw [Octets.slice, ← List.drop_drop, List.take_append_drop,
      List.take_append_drop]
  have front : (record.toList.take field).length = field := by
    rw [List.length_take, record.length_toList]
    omega
  rw [parts, holds_append, holds_append, front] at held
  exact held.2.1

/-- A field of a record has the number that the image has at its offset. -/
theorem littleEndianValue_slice (held : Holds image place record.toList)
    {field width : Nat} (inside : field + width ≤ size) :
    littleEndianValue (record.slice field width inside).toList =
      numberAt image (place + field) width := by
  have own := List.prefix_iff_eq_take.1 (holds_slice held inside)
  rw [Octets.length_toList] at own
  rw [numberAt, ← own]

theorem toNat_readWord16 (octets : Octets 2) :
    (readWord16 octets).toNat = littleEndianValue octets.toList :=
  UInt16.toNat_ofNat_of_lt' octets.littleEndianValue_lt

theorem toNat_readWord32 (octets : Octets 4) :
    (readWord32 octets).toNat = littleEndianValue octets.toList :=
  UInt32.toNat_ofNat_of_lt' octets.littleEndianValue_lt

/-- The next record is taken where there is room for it. -/
theorem takeRecord_drop_eq_ok_iff {left : List UInt8} (some : 0 < size) :
    takeRecord size (image.drop place) = .ok (record, left) ↔
      place + size ≤ image.length ∧ Holds image place record.toList ∧
        left = image.drop (place + size) := by
  have width := record.length_toList
  constructor
  · intro taken
    have whole := takeRecord_eq_ok taken
    have length := congrArg List.length whole
    rw [List.length_drop, List.length_append, width] at length
    refine ⟨by omega, ⟨left, whole.symm⟩, ?_⟩
    rw [← List.drop_drop, whole, List.drop_left' width]
  · rintro ⟨-, ⟨rest, whole⟩, rfl⟩
    rw [← List.drop_drop, ← whole, List.drop_left' width]
    exact takeRecord_append width rest

end Fields

/-! ## Networks -/

/-- The number of a family that a record may name. -/
theorem family?_eq_none_iff {number : UInt16} :
    family? number = none ↔ number.toNat ≠ 2 ∧ number.toNat ≠ 23 := by
  have two : number.toNat = 2 ↔ number = 2 := UInt16.toNat_inj (b := 2)
  have more : number.toNat = 23 ↔ number = 23 := UInt16.toNat_inj (b := 23)
  rw [family?, ne_eq, ne_eq, two, more]
  split_ifs with isTwo isMore
  · simp [isTwo]
  · simp [isMore]
  · simp [isTwo, isMore]

section Records

variable {image : List UInt8} {place : Nat}

/-- A network is read exactly if its family and its length are known ones. -/
theorem exists_networkOf_iff {record : Octets 24}
    (held : Holds image place record.toList) :
    (∃ network, networkOf record = .ok network) ↔
      IsNetworkAt image place := by
  have number := toNat_readWord16 (record.slice 16 2)
  have length : littleEndianValue (record.slice 18 1).toList =
      numberAt image (place + 18) 1 :=
    littleEndianValue_slice held (by decide)
  have small : numberAt image (place + 18) 1 < 256 := by
    rw [← length]
    exact (record.slice 18 1).littleEndianValue_lt
  rw [littleEndianValue_slice held] at number
  cases found : family? (readWord16 (record.slice 16 2)) with
  | none =>
      have unknown := family?_eq_none_iff.1 found
      rw [number] at unknown
      simp [networkOf, readNetwork, found, IsNetworkAt, unknown]
  | some family =>
      have known := family?_eq_some_iff.1 found
      rw [known] at number
      cases family with
      | ipv4 =>
          have own : numberAt image (place + 16) 2 = 2 := number.symm
          simp only [networkOf, readNetwork, found, mapError_eq_ok_iff,
            length, UInt8.toNat_ofNat_of_lt' small, Prefix.exists_make_iff]
          simp [IsNetworkAt, own, IpAddress.width, IpAddress.family,
            Family.width]
      | ipv6 =>
          have own : numberAt image (place + 16) 2 = 23 := number.symm
          simp only [networkOf, readNetwork, found, mapError_eq_ok_iff,
            length, UInt8.toNat_ofNat_of_lt' small, Prefix.exists_make_iff]
          simp [IsNetworkAt, own, IpAddress.width, IpAddress.family,
            Family.width]

/-- Networks that were read stand one behind the other, and can be read. -/
theorem isNetworkAt_of_readNetworks {count : Nat} {networks : List Prefix}
    {left : List UInt8} (inside : place ≤ image.length)
    (read : readNetworks count (image.drop place) = .ok (networks, left)) :
    place + 24 * count ≤ image.length ∧
      left = image.drop (place + 24 * count) ∧
      ∀ number < count, IsNetworkAt image (place + 24 * number) := by
  induction count generalizing place networks left with
  | zero =>
      cases read
      exact ⟨inside, rfl, fun number none => absurd none (Nat.not_lt_zero _)⟩
  | succ count ih =>
      rcases bind_eq_ok_iff.1 read with ⟨⟨record, rest⟩, taken, read⟩
      rcases bind_eq_ok_iff.1 read with ⟨network, own, read⟩
      rcases bind_eq_ok_iff.1 read with ⟨⟨others, left'⟩, more, read⟩
      cases read
      rcases (takeRecord_drop_eq_ok_iff (by decide)).1 taken with
        ⟨room, held, rfl⟩
      rcases ih room more with ⟨reach, rfl, each⟩
      have next : place + 24 + 24 * count = place + 24 * (count + 1) := by
        omega
      refine ⟨by omega, by rw [next], ?_⟩
      intro number smaller
      cases number with
      | zero => exact (exists_networkOf_iff held).1 ⟨network, own⟩
      | succ number =>
          have known := each number (Nat.lt_of_succ_lt_succ smaller)
          have same : place + 24 + 24 * number = place + 24 * (number + 1) := by
            omega
          rw [same] at known
          exact known

/-! ## Peers -/

/-- An endpoint is read exactly if it is absent or its family is known. -/
theorem exists_readPeerEndpoint_iff {record : Octets 136}
    (held : Holds image place record.toList) :
    (∃ endpoint,
        readPeerEndpoint (PeerRecord.ofOctets record) = .ok endpoint) ↔
      ((numberAt image place 4).testBit 3 = true →
        numberAt image (place + 76) 2 = 2 ∨
          numberAt image (place + 76) 2 = 23) := by
  have bit : PeerFlag.hasEndpoint.toNat = 2 ^ 3 := rfl
  have flags : (PeerRecord.ofOctets record).flags.toNat =
      numberAt image place 4 :=
    (toNat_readWord32 _).trans (littleEndianValue_slice held _)
  have field : Holds image (place + 76)
      (PeerRecord.ofOctets record).endpoint.toList :=
    holds_slice held (by decide)
  have number : (readWord16
      ((PeerRecord.ofOctets record).endpoint.slice 0 2)).toNat =
        numberAt image (place + 76) 2 :=
    (toNat_readWord16 _).trans (littleEndianValue_slice field _)
  rw [readPeerEndpoint, isSet_eq_testBit bit, flags]
  cases (numberAt image place 4).testBit 3 with
  | false => simp
  | true =>
      simp only [if_true, map_eq_ok_iff, forall_const]
      cases found : family? (readWord16
          ((PeerRecord.ofOctets record).endpoint.slice 0 2)) with
      | none =>
          have unknown := family?_eq_none_iff.1 found
          rw [number] at unknown
          simp [readEndpoint, found, unknown]
      | some family =>
          have known := family?_eq_some_iff.1 found
          rw [known] at number
          cases family with
          | ipv4 => simp [readEndpoint, found, ← number, familyNumber]
          | ipv6 => simp [readEndpoint, found, ← number, familyNumber]

theorem toNat_allowedIpCount {record : Octets 136}
    (held : Holds image place record.toList) :
    (PeerRecord.ofOctets record).allowedIpCount.toNat =
      networkCount image place :=
  (toNat_readWord32 _).trans (littleEndianValue_slice held _)

/-- Peers that were read stand where the counts say, and can be read. -/
theorem isPeerAt_of_readPeers {count : Nat}
    {peers : List (Config.Peer × PeerStats)} {left : List UInt8}
    (inside : place ≤ image.length)
    (read : readPeers count (image.drop place) = .ok (peers, left)) :
    (peerEnd image)^[count] place ≤ image.length ∧
      ∀ index < count, IsPeerAt image ((peerEnd image)^[index] place) := by
  induction count generalizing place peers left with
  | zero =>
      cases read
      exact ⟨inside, fun index none => absurd none (Nat.not_lt_zero _)⟩
  | succ count ih =>
      rcases bind_eq_ok_iff.1 read with ⟨⟨record, rest⟩, taken, read⟩
      rcases bind_eq_ok_iff.1 read with ⟨endpoint, own, read⟩
      rcases bind_eq_ok_iff.1 read with ⟨⟨networks, rest'⟩, listed, read⟩
      rcases bind_eq_ok_iff.1 read with ⟨⟨others, left'⟩, more, read⟩
      rcases (takeRecord_drop_eq_ok_iff (by decide)).1 taken with
        ⟨room, held, rfl⟩
      rw [toNat_allowedIpCount held] at listed
      rcases isNetworkAt_of_readNetworks room listed with
        ⟨reach, rfl, each⟩
      rcases ih reach more with ⟨last, all⟩
      refine ⟨last, ?_⟩
      intro index smaller
      cases index with
      | zero =>
          exact ⟨(exists_readPeerEndpoint_iff held).1 ⟨endpoint, own⟩, each⟩
      | succ index => exact all index (Nat.lt_of_succ_lt_succ smaller)

end Records

/-! ## Whole images -/

theorem toNat_peerCount {image : List UInt8} {record : Octets 80}
    (held : Holds image 0 record.toList) :
    (InterfaceRecord.ofOctets record).peerCount.toNat = peerCount image := by
  have field : littleEndianValue (record.slice 72 4).toList =
      numberAt image (0 + 72) 4 :=
    littleEndianValue_slice held (by decide)
  rw [Nat.zero_add] at field
  exact (toNat_readWord32 _).trans field

/-- An image that was read holds all records that it counts. -/
theorem isSelfDelimiting_of_decode {image : List UInt8} {decoded : Decoded}
    (read : decode image = .ok decoded) : IsSelfDelimiting image := by
  rcases bind_eq_ok_iff.1 read with ⟨⟨record, rest⟩, taken, read⟩
  rcases bind_eq_ok_iff.1 read with ⟨⟨peers, left⟩, all, -⟩
  have start : image.drop 0 = image := List.drop_zero
  rw [← start] at taken
  rcases (takeRecord_drop_eq_ok_iff (by decide)).1 taken with
    ⟨room, held, rfl⟩
  rw [toNat_peerCount held] at all
  rcases isPeerAt_of_readPeers room all with ⟨inside, each⟩
  exact ⟨inside, each⟩

end Tunnel.Image
