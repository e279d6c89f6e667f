import Mathlib.Logic.Function.Iterate
import Tunnel.Proofs.Netlink.Packet

/-!
# Packets by their places

A datagram of any octets says by itself where its packets are: the first is at
its start, and each gives the length after which, brought to a multiple of
four, the next one starts (`packetEnd`).  Reading gives the packets at these
places as long as the datagram has room for a header and for the length that is
given there.  A length that does not fit is the last item, and an end without
room for a header ends the reading silently (`IsReading`); so every datagram is
read in a bounded number of steps, and no octet twice (`exists_isReading`).
-/

namespace Tunnel.Netlink.Packet

/-! ## Places -/

section Places

variable (datagram : List UInt8)

/-- The length that the header at a place gives. -/
def lengthAt (place : Nat) : Nat :=
  wordAt 4 (datagram.drop place)

/-- Where the packet at a place ends, with its padding. -/
def packetEnd (place : Nat) : Nat :=
  place + align (lengthAt datagram place)

/-- There is room for a header at a place. -/
def HasHeader (place : Nat) : Prop :=
  place + headerSize ≤ datagram.length

/-- The length at a place is that of a header at least, and is there. -/
def Fits (place : Nat) : Prop :=
  headerSize ≤ lengthAt datagram place ∧
    place + lengthAt datagram place ≤ datagram.length

instance (place : Nat) : Decidable (HasHeader datagram place) :=
  inferInstanceAs (Decidable (_ ≤ _))

instance (place : Nat) : Decidable (Fits datagram place) :=
  inferInstanceAs (Decidable (_ ∧ _))

/-- The packet at a place: its header, and what follows up to its length. -/
def packetAt (place : Nat) : Packet where
  header := Header.ofOctets (datagram.drop place)
  payload :=
    (datagram.take (place + lengthAt datagram place)).drop
      (place + headerSize)

/-- The first packets from a place on, each behind the one before it. -/
def packetsFrom (start count : Nat) : List Packet :=
  (List.range count).map fun index =>
    packetAt datagram ((packetEnd datagram)^[index] start)

/-- What is said of the length at a place that does not fit. -/
def misfitAt (place : Nat) : Error :=
  .invalidMessage s!"invalid message length: {lengthAt datagram place}"

variable {datagram} {start place count : Nat}

theorem packetsFrom_succ :
    packetsFrom datagram start (count + 1) =
      packetAt datagram start ::
        packetsFrom datagram (packetEnd datagram start) count := by
  unfold packetsFrom
  rw [List.range_succ_eq_map, List.map_cons, List.map_map]
  rfl

/-! ## Reading at a place -/

theorem readAll_drop_of_short (short : ¬ HasHeader datagram place) :
    readAll (datagram.drop place) = [] := by
  unfold HasHeader at short
  have few : (datagram.drop place).length < headerSize := by
    rw [List.length_drop]
    unfold headerSize at short ⊢
    omega
  rw [readAll, if_pos few]

theorem readAll_drop_of_misfit (header : HasHeader datagram place)
    (misfit : ¬ Fits datagram place) :
    readAll (datagram.drop place) = [.error (misfitAt datagram place)] := by
  unfold HasHeader at header
  have room : ¬ (datagram.drop place).length < headerSize := by
    rw [List.length_drop]
    omega
  have outside : ¬ (headerSize ≤ wordAt 4 (datagram.drop place) ∧
      wordAt 4 (datagram.drop place) ≤ (datagram.drop place).length) := by
    rw [List.length_drop]
    unfold Fits lengthAt at misfit
    omega
  rw [readAll, if_neg room]
  dsimp only
  rw [dif_neg outside]
  rfl

theorem readAll_drop_of_fits (header : HasHeader datagram place)
    (fits : Fits datagram place) :
    readAll (datagram.drop place) =
      .ok (packetAt datagram place) ::
        readAll (datagram.drop (packetEnd datagram place)) := by
  unfold HasHeader at header
  have room : ¬ (datagram.drop place).length < headerSize := by
    rw [List.length_drop]
    omega
  have inside : headerSize ≤ wordAt 4 (datagram.drop place) ∧
      wordAt 4 (datagram.drop place) ≤ (datagram.drop place).length := by
    rw [List.length_drop]
    unfold Fits lengthAt at fits
    omega
  rw [readAll, if_neg room]
  dsimp only
  rw [dif_pos inside, packetAt, List.take_drop, List.drop_drop,
    List.drop_drop]
  rfl

end Places

/-! ## Readings -/

/--
From a place on a datagram gives some count of packets and then ends: the
packets in front of the end have room and fit, there are no more of them than
headers have room, and where the next one would start there is no room for a
header, or there is one with a length that does not fit, which is the last
item.
-/
structure IsReading (datagram : List UInt8) (start count : Nat)
    (items : List (Except Error Packet)) : Prop where
  whole : ∀ index < count,
    HasHeader datagram ((packetEnd datagram)^[index] start) ∧
      Fits datagram ((packetEnd datagram)^[index] start)
  bounded : headerSize * count ≤ datagram.length - start
  ends :
    let place := (packetEnd datagram)^[count] start
    (¬ HasHeader datagram place ∧
        items = (packetsFrom datagram start count).map .ok) ∨
      (HasHeader datagram place ∧ ¬ Fits datagram place ∧
        items = (packetsFrom datagram start count).map .ok ++
          [.error (misfitAt datagram place)])

section Reading

variable {datagram : List UInt8} {start count : Nat}
  {items : List (Except Error Packet)}

theorem IsReading.cons
    (reading : IsReading datagram (packetEnd datagram start) count items)
    (header : HasHeader datagram start) (fits : Fits datagram start) :
    IsReading datagram start (count + 1)
      (.ok (packetAt datagram start) :: items) where
  whole
    | 0, _ => ⟨header, fits⟩
    | index + 1, below => reading.whole index (Nat.lt_of_succ_lt_succ below)
  bounded := by
    have others := reading.bounded
    have wide := le_align (lengthAt datagram start)
    obtain ⟨long, inside⟩ := fits
    unfold packetEnd at others
    unfold headerSize at others long ⊢
    omega
  ends := by
    rw [Function.iterate_succ_apply, packetsFrom_succ, List.map_cons]
    rcases reading.ends with ⟨short, rfl⟩ | ⟨room, misfit, rfl⟩
    · exact Or.inl ⟨short, rfl⟩
    · exact Or.inr ⟨room, misfit, rfl⟩

/-- Every datagram can be read from every place on. -/
theorem exists_isReading (datagram : List UInt8) (start : Nat) :
    ∃ count, IsReading datagram start count
      (readAll (datagram.drop start)) := by
  induction gap : datagram.length - start using Nat.strong_induction_on
    generalizing start with
  | _ size ih =>
    by_cases header : HasHeader datagram start
    · by_cases fits : Fits datagram start
      · have further : datagram.length - packetEnd datagram start < size := by
          have wide := le_align (lengthAt datagram start)
          unfold Fits headerSize at fits
          unfold packetEnd
          omega
        obtain ⟨count, reading⟩ := ih _ further _ rfl
        rw [readAll_drop_of_fits header fits]
        exact ⟨count + 1, reading.cons header fits⟩
      · rw [readAll_drop_of_misfit header fits]
        exact ⟨0, nofun, Nat.zero_le _, Or.inr ⟨header, fits, rfl⟩⟩
    · rw [readAll_drop_of_short header]
      exact ⟨0, nofun, Nat.zero_le _, Or.inl ⟨header, rfl⟩⟩

end Reading

/--
Every datagram is read by the places that its lengths give, up to its end or
to the first length that does not fit; and what follows whole packets, each
brought to a multiple of four, is read as if it stood alone.
-/
theorem datagram_is_read (datagram : List UInt8) :
    (∃ count, IsReading datagram 0 count (readAll datagram)) ∧
      ∀ packets frames, List.Forall₂ IsFrame packets frames →
        readAll (frames.flatten ++ datagram) =
          packets.map .ok ++ readAll datagram :=
  ⟨exists_isReading datagram 0, fun _ _ framed =>
    readAll_frames framed datagram⟩

/-- A packet of three octets, which are not followed by a zero. -/
def oddPacket : Packet where
  header :=
    { length := 19, type := PacketType.newAddress, flags := 0, sequence := 5
      port := 4242 }
  payload := [1, 2, 3]

def emptyPacket : Packet where
  header :=
    { length := 16, type := PacketType.done, flags := 2, sequence := 5
      port := 4242 }
  payload := []

/-- A header that gives more than there is. -/
def longHeader : List UInt8 :=
  { emptyPacket.header with length := 200 }.toOctets

theorem datagram_is_read_oddPackets :
    let frames := [oddPacket.header.toOctets ++ oddPacket.payload ++ [255],
      emptyPacket.header.toOctets]
    List.Forall₂ IsFrame [oddPacket, emptyPacket] frames ∧
      readAll (frames.flatten ++ longHeader) =
        [.ok oddPacket, .ok emptyPacket,
          .error (.invalidMessage s!"invalid message length: {200}")] := by
  intro frames
  have odd : oddPacket.IsFrame
      (oddPacket.header.toOctets ++ oddPacket.payload ++ [255]) :=
    { length := rfl
      begins := List.prefix_append _ _
      filled := rfl }
  have empty : emptyPacket.IsFrame emptyPacket.header.toOctets :=
    { length := rfl
      begins := List.prefix_rfl
      filled := rfl }
  have framed : List.Forall₂ IsFrame [oddPacket, emptyPacket] frames :=
    .cons odd (.cons empty .nil)
  have header : HasHeader longHeader 0 := by decide
  have misfit : ¬ Fits longHeader 0 := by decide
  have rest : readAll longHeader =
      [.error (.invalidMessage s!"invalid message length: {200}")] :=
    readAll_drop_of_misfit header misfit
  refine ⟨framed, ?_⟩
  rw [(datagram_is_read longHeader).2 _ _ framed, rest]
  rfl

end Tunnel.Netlink.Packet
