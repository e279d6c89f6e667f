import Mathlib.Data.List.Forall2
import Tunnel.Netlink.Packet
import Tunnel.Proofs.Octets

/-!
# Packets that were written

A datagram is written packet by packet, each with its padding.  A packet whose
header gives its own length reads back as it was written, whatever the padding
is, and what follows it is read as if it stood at the start of a datagram
(`Packet.readAll_frames`); so the packets of a datagram are the packets that
were put into it (`Packet.readAll_datagram`).
-/

namespace Tunnel.Netlink

/-! ## Words -/

section Words

variable {width value : Nat} (rest : List UInt8)

theorem wordAt_littleEndian (fits : value < 256 ^ width) :
    wordAt width (littleEndian width value ++ rest) = value := by
  unfold wordAt
  rw [List.take_left' (length_littleEndian width value)]
  exact littleEndianValue_littleEndian fits

theorem drop_littleEndian :
    (littleEndian width value ++ rest).drop width = rest :=
  List.drop_left' (length_littleEndian width value)

theorem drop_littleEndian_add (further : Nat) :
    (littleEndian width value ++ rest).drop (width + further) =
      rest.drop further := by
  rw [← List.drop_drop, drop_littleEndian]

theorem wordAt_word16 (word : UInt16) :
    UInt16.ofNat (wordAt 2 (littleEndian 2 word.toNat ++ rest)) = word := by
  rw [wordAt_littleEndian rest word.toNat_lt, UInt16.ofNat_toNat]

theorem wordAt_word32 (word : UInt32) :
    UInt32.ofNat (wordAt 4 (littleEndian 4 word.toNat ++ rest)) = word := by
  rw [wordAt_littleEndian rest word.toNat_lt, UInt32.ofNat_toNat]

end Words

/-! ## Headers -/

namespace Header

variable (header : Header) (rest : List UInt8)

/-- The words of a header, one after another. -/
theorem toOctets_append :
    header.toOctets ++ rest =
      littleEndian 4 header.length.toNat ++
        (littleEndian 2 header.type.toNat ++
          (littleEndian 2 header.flags.toNat ++
            (littleEndian 4 header.sequence.toNat ++
              (littleEndian 4 header.port.toNat ++ rest)))) := by
  simp only [toOctets, List.append_assoc]

theorem ofOctets_toOctets : ofOctets (header.toOctets ++ rest) = header := by
  rw [toOctets_append]
  unfold ofOctets
  rw [show 12 = 4 + (2 + (2 + 4)) from rfl, show 8 = 4 + (2 + 2) from rfl,
    show 6 = 4 + 2 from rfl]
  simp only [drop_littleEndian_add, drop_littleEndian, wordAt_word16,
    wordAt_word32]

theorem wordAt_toOctets :
    wordAt 4 (header.toOctets ++ rest) = header.length.toNat := by
  rw [toOctets_append]
  exact wordAt_littleEndian _ header.length.toNat_lt

end Header

/-! ## Packets -/

namespace Packet

/-- The octets of a datagram that consists of some packets. -/
def datagram (packets : List Packet) : List UInt8 :=
  packets.flatMap toOctets

/--
The header of a packet gives its length, and a packet that complains has room
for the complaint.
-/
structure IsWellFormed (packet : Packet) : Prop where
  length : packet.header.length.toNat =
    headerSize + packet.payload.length
  complaint : packet.header.isError = true →
    Complaint.size ≤ packet.payload.length

instance (packet : Packet) : Decidable packet.IsWellFormed :=
  decidable_of_iff
    (packet.header.length.toNat = headerSize + packet.payload.length ∧
      (packet.header.isError = true →
        Complaint.size ≤ packet.payload.length))
    ⟨fun both => ⟨both.1, both.2⟩, fun formed => ⟨formed.1, formed.2⟩⟩

theorem length_toOctets (packet : Packet) :
    packet.toOctets.length = align (headerSize + packet.payload.length) := by
  have wide := le_align (headerSize + packet.payload.length)
  simp only [toOctets, List.length_append, Header.length_toOctets,
    length_padding]
  omega

/--
A frame holds one packet: its header, which gives its length, its payload, and
octets of any kind up to a multiple of four.
-/
structure IsFrame (packet : Packet) (frame : List UInt8) : Prop where
  length : packet.header.length.toNat =
    headerSize + packet.payload.length
  begins : packet.header.toOctets ++ packet.payload <+: frame
  filled : frame.length = align (headerSize + packet.payload.length)

theorem isFrame_toOctets {packet : Packet}
    (length : packet.header.length.toNat =
      headerSize + packet.payload.length) :
    packet.IsFrame packet.toOctets where
  length
  begins := List.prefix_append _ _
  filled := packet.length_toOctets

/-- A packet reads back, and what follows its frame stands at the start. -/
theorem IsFrame.readAll_append {packet : Packet} {frame : List UInt8}
    (framed : packet.IsFrame frame) (rest : List UInt8) :
    readAll (frame ++ rest) = .ok packet :: readAll rest := by
  obtain ⟨filler, written⟩ := framed.begins
  have wide := le_align (headerSize + packet.payload.length)
  have front : frame ++ rest =
      packet.header.toOctets ++ (packet.payload ++ (filler ++ rest)) := by
    simp only [← written, List.append_assoc]
  have length : wordAt 4 (frame ++ rest) =
      headerSize + packet.payload.length := by
    rw [front, Header.wordAt_toOctets, framed.length]
  have total : (frame ++ rest).length =
      align (headerSize + packet.payload.length) + rest.length := by
    rw [List.length_append, framed.filled]
  have header : Header.ofOctets (frame ++ rest) = packet.header := by
    rw [front, Header.ofOctets_toOctets]
  have payload : ((frame ++ rest).take
      (headerSize + packet.payload.length)).drop headerSize =
      packet.payload := by
    rw [front, List.drop_take, List.drop_left' packet.header.length_toOctets,
      Nat.add_sub_cancel_left]
    exact List.take_left' rfl
  have others : (frame ++ rest).drop
      (align (headerSize + packet.payload.length)) = rest :=
    List.drop_left' framed.filled
  rw [readAll, if_neg (by omega)]
  simp only [length, header, payload, others]
  rw [dif_pos ⟨by omega, by omega⟩]

/-- The packets of frames are read, and then those of what follows. -/
theorem readAll_frames {packets : List Packet} {frames : List (List UInt8)}
    (framed : List.Forall₂ IsFrame packets frames) (rest : List UInt8) :
    readAll (frames.flatten ++ rest) = packets.map .ok ++ readAll rest := by
  induction framed with
  | nil => rfl
  | cons first others ih =>
      rw [List.flatten_cons, List.append_assoc, first.readAll_append, ih]
      rfl

@[simp]
theorem readAll_nil : readAll [] = [] := by
  rw [readAll]
  rfl

/-- The packets of a datagram are those that were put into it. -/
theorem readAll_datagram {packets : List Packet}
    (formed : ∀ packet ∈ packets, packet.IsWellFormed) :
    readAll (datagram packets) = packets.map .ok := by
  have framed : List.Forall₂ IsFrame packets (packets.map toOctets) :=
    List.forall₂_map_right_iff.2 <| List.forall₂_same.2 fun packet member =>
      isFrame_toOctets (formed packet member).length
  have whole := readAll_frames framed []
  rwa [List.append_nil, readAll_nil, List.append_nil] at whole

end Packet

end Tunnel.Netlink
