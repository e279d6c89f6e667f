import Tunnel.Netlink.Links
import Tunnel.Proofs.Netlink.LastAttribute
import Tunnel.Proofs.Netlink.PacketPlaces

/-!
# What link packets announce

A packet is about a link if its type says so and its payload has room for the
header of a link (`IsAboutLink`).  Each such packet announces one change, and
no other packet announces any: the interface is the one of the header's index,
a link that is gone is not present whatever its attributes are, and any other
link has the status of its last status attribute, or none (`Announces`).  The
changes in a datagram are those of its packets up to the first that cannot be
read, in their order (`changes_announced`).
-/

namespace Tunnel.Netlink

/-! ## Announcements -/

/-- The packet tells of a link that is there or gone, and has its header. -/
def IsAboutLink (packet : Packet) : Prop :=
  (packet.header.type = PacketType.newLink ∨
      packet.header.type = PacketType.deleteLink) ∧
    LinkHeader.size ≤ packet.payload.length

instance : DecidablePred IsAboutLink := fun _ =>
  inferInstanceAs (Decidable (_ ∧ _))

/-- The attributes of a payload about a link. -/
def linkAttributes (payload : List UInt8) : List Attribute :=
  Attribute.readAll (payload.drop LinkHeader.size)

/--
The change that a packet about a link announces.  Its interface is the number
in the four octets of the header's index.
-/
structure Announces (packet : Packet) (change : InterfaceChange) : Prop where
  interface : change.interface.raw.toNat =
    littleEndianValue ((packet.payload.drop 4).take 4)
  gone : packet.header.type = PacketType.deleteLink →
    change.status = some .notPresent
  there : packet.header.type = PacketType.newLink →
    ∃ said, LastSays LinkAttribute.operState List.head?
        (linkAttributes packet.payload) said ∧
      change.status = said.map OperStatus.ofKernel

/-! ## Single packets -/

section Packet

variable {packet : Packet}

theorem toNat_ofIndex_index (payload : List UInt8) :
    (InterfaceId.ofIndex (LinkHeader.ofOctets payload).index).raw.toNat =
      littleEndianValue ((payload.drop 4).take 4) := by
  have small := littleEndianValue_lt ((payload.drop 4).take 4)
  have few : ((payload.drop 4).take 4).length ≤ 4 := List.length_take_le _ _
  have bound := Nat.pow_le_pow_right (by decide : 0 < 256) few
  exact Nat.mod_eq_of_lt (Nat.lt_of_lt_of_le small bound)

theorem LinkMessage.read_eq_ite (payload : List UInt8) :
    LinkMessage.read payload =
      if LinkHeader.size ≤ payload.length then
        .ok
          { header := LinkHeader.ofOctets payload
            name :=
              lastValue LinkAttribute.name
                (fun value => some (linkName value)) (linkAttributes payload)
            operState :=
              lastValue LinkAttribute.operState List.head?
                (linkAttributes payload) }
      else .error shortPayload := by
  unfold LinkMessage.read attributesAfter
  split <;> rfl

/-- The change that is read from a packet. -/
theorem linkChange?_eq_ite (packet : Packet) :
    linkChange? packet =
      if IsAboutLink packet then
        some
          { interface := InterfaceId.ofIndex
              (LinkHeader.ofOctets packet.payload).index
            status :=
              if packet.header.type = PacketType.deleteLink then
                some .notPresent
              else
                (lastValue LinkAttribute.operState List.head?
                  (linkAttributes packet.payload)).map OperStatus.ofKernel }
      else none := by
  unfold linkChange?
  rw [LinkMessage.read_eq_ite]
  dsimp only [guard]
  by_cases typed : packet.header.type = PacketType.deleteLink ∨
      packet.header.type = PacketType.newLink
  · rw [if_pos typed]
    by_cases complete : LinkHeader.size ≤ packet.payload.length
    · have about : IsAboutLink packet := ⟨typed.symm, complete⟩
      rw [if_pos complete, if_pos about]
      rfl
    · have other : ¬ IsAboutLink packet := fun about => complete about.2
      rw [if_neg complete, if_neg other]
      rfl
  · have other : ¬ IsAboutLink packet := fun about => typed about.1.symm
    rw [if_neg typed, if_neg other]
    rfl

/-- A packet about a link announces the change that is read from it. -/
theorem exists_linkChange? (about : IsAboutLink packet) :
    ∃ change, linkChange? packet = some change ∧
      Announces packet change := by
  rw [linkChange?_eq_ite, if_pos about]
  refine ⟨_, rfl, ?_⟩
  exact {
    interface := toNat_ofIndex_index packet.payload
    gone := fun gone => if_pos gone
    there := by
      intro there
      have kept : packet.header.type ≠ PacketType.deleteLink := by
        rw [there]
        decide
      exact ⟨_, lastSays_iff.2 rfl, if_neg kept⟩ }

theorem linkChange?_eq_none (other : ¬ IsAboutLink packet) :
    linkChange? packet = none := by
  rw [linkChange?_eq_ite, if_neg other]

end Packet

/-! ## Rows of packets -/

theorem changesOf_map_append (packets : List Packet)
    (items : List (Except Error Packet)) :
    changesOf (packets.map .ok ++ items) =
      packets.filterMap linkChange? ++ changesOf items := by
  induction packets with
  | nil => rfl
  | cons packet rest ih =>
      rw [List.map_cons, List.cons_append, changesOf, ih]
      cases announced : linkChange? packet with
      | none => rw [List.filterMap_cons_none announced]; rfl
      | some change => rw [List.filterMap_cons_some announced]; rfl

/-- Packets about links announce one change each, in their order. -/
theorem announces_filterMap (packets : List Packet) :
    List.Forall₂ Announces (packets.filter fun packet => IsAboutLink packet)
      (packets.filterMap linkChange?) := by
  induction packets with
  | nil => exact .nil
  | cons packet rest ih =>
      by_cases about : IsAboutLink packet
      · obtain ⟨change, found, announces⟩ := exists_linkChange? about
        rw [List.filter_cons, if_pos (decide_eq_true about),
          List.filterMap_cons_some found]
        exact .cons announces ih
      · rw [List.filter_cons, if_neg (mt of_decide_eq_true about),
          List.filterMap_cons_none (linkChange?_eq_none about)]
        exact ih

/-- What ends a reading announces nothing. -/
theorem changesOf_reading {datagram : List UInt8} {start count : Nat}
    {items : List (Except Error Packet)}
    (reading : Packet.IsReading datagram start count items) :
    changesOf items =
      (Packet.packetsFrom datagram start count).filterMap linkChange? := by
  rcases reading.ends with ⟨-, rfl⟩ | ⟨-, -, rfl⟩
  · have whole :=
      changesOf_map_append (Packet.packetsFrom datagram start count) []
    rwa [List.append_nil, changesOf, List.append_nil] at whole
  · rw [changesOf_map_append, changesOf, List.append_nil]

/-- The changes in whole packets come before those in what follows. -/
theorem linkChanges_frames {packets : List Packet}
    {frames : List (List UInt8)}
    (framed : List.Forall₂ Packet.IsFrame packets frames)
    (rest : List UInt8) :
    linkChanges (frames.flatten ++ rest) =
      packets.filterMap linkChange? ++ linkChanges rest := by
  rw [linkChanges, Packet.readAll_frames framed, changesOf_map_append]
  rfl

theorem linkChanges_flatten {packets : List Packet}
    {frames : List (List UInt8)}
    (framed : List.Forall₂ Packet.IsFrame packets frames) :
    linkChanges frames.flatten = packets.filterMap linkChange? := by
  have nothing : linkChanges [] = [] := by
    rw [linkChanges, Packet.readAll_nil, changesOf]
  have whole := linkChanges_frames framed []
  rwa [List.append_nil, nothing, List.append_nil] at whole

/--
The changes in a datagram of any octets are announced by the packets about
links in front of its end, or of the first header whose length does not fit.
Those in whole packets, each brought to a multiple of four, are announced by
these packets, and come before those in what follows.
-/
theorem changes_announced (datagram : List UInt8) :
    (∃ count, Packet.IsReading datagram 0 count (Packet.readAll datagram) ∧
      List.Forall₂ Announces
        ((Packet.packetsFrom datagram 0 count).filter fun packet =>
          IsAboutLink packet)
        (linkChanges datagram)) ∧
      ∀ packets frames, List.Forall₂ Packet.IsFrame packets frames →
        linkChanges (frames.flatten ++ datagram) =
            linkChanges frames.flatten ++ linkChanges datagram ∧
          List.Forall₂ Announces
            (packets.filter fun packet => IsAboutLink packet)
            (linkChanges frames.flatten) := by
  constructor
  · obtain ⟨count, reading⟩ := Packet.exists_isReading datagram 0
    refine ⟨count, reading, ?_⟩
    have changes : linkChanges datagram = _ := changesOf_reading reading
    rw [changes]
    exact announces_filterMap _
  · intro packets frames framed
    rw [linkChanges_frames framed, linkChanges_flatten framed]
    exact ⟨rfl, announces_filterMap packets⟩

/-- A packet about a link with some attributes. -/
def linkPacket (type : UInt16) (index : UInt32)
    (attributes : List Attribute) : Packet :=
  let payload := LinkHeader.toOctets { index } ++
    attributes.flatMap Attribute.toOctets
  { header :=
      { length := UInt32.ofNat (headerSize + payload.length), type, flags := 0
        sequence := 0, port := 0 }
    payload }

/--
A link that comes up after all, one that is gone though it says that it is up,
one that says nothing in the end, one whose lower layer is down, one that says
what has no meaning, and an address.
-/
def linkNews : List Packet :=
  let up : Attribute := ⟨LinkAttribute.operState, [6]⟩
  let down : Attribute := ⟨LinkAttribute.operState, [2]⟩
  let silent : Attribute := ⟨LinkAttribute.operState, []⟩
  let lower : Attribute := ⟨LinkAttribute.operState, [3]⟩
  let strange : Attribute := ⟨LinkAttribute.operState, [7]⟩
  [linkPacket PacketType.newLink 3 [down, up],
    linkPacket PacketType.deleteLink 5 [up],
    linkPacket PacketType.newLink 4 [up, silent],
    linkPacket PacketType.newLink 7 [up, lower],
    linkPacket PacketType.newLink 8 [strange],
    linkPacket PacketType.newAddress 6 [up]]

theorem changes_announced_linkNews :
    let frames := linkNews.map Packet.toOctets
    let changes : List InterfaceChange :=
      [{ interface := .ofIndex 3, status := some .up },
        { interface := .ofIndex 5, status := some .notPresent },
        { interface := .ofIndex 4, status := none },
        { interface := .ofIndex 7, status := some .lowerLayerDown },
        { interface := .ofIndex 8, status := some .unknown }]
    List.Forall₂ Packet.IsFrame linkNews frames ∧
      linkChanges (frames.flatten ++ Packet.longHeader) = changes ∧
      List.Forall₂ Announces (linkNews.take 5) changes := by
  intro frames changes
  have framed : List.Forall₂ Packet.IsFrame linkNews frames := by
    refine List.forall₂_map_right_iff.2 (List.forall₂_same.2 ?_)
    intro packet member
    exact Packet.isFrame_toOctets
      ((by decide : ∀ packet ∈ linkNews, packet.header.length.toNat =
        headerSize + packet.payload.length) packet member)
  have read : linkChanges frames.flatten = changes := by decide +kernel
  have rest : linkChanges Packet.longHeader = [] := by decide +kernel
  obtain ⟨-, whole⟩ := changes_announced Packet.longHeader
  obtain ⟨split, announced⟩ := whole linkNews frames framed
  rw [read, rest] at split
  rw [read] at announced
  exact ⟨framed, split, announced⟩

end Tunnel.Netlink
