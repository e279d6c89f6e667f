import Tunnel.Proofs.Image.Walk

/-!
# Images that are cut

Reading goes over an image once, from the front, and asks for the records that
the image counts and for nothing else.  `Reads` says this of one reader: it
takes the octets from one offset to another, whatever follows them, and where
the image ends inside one of its records it reports that record.  A sequence of
readers reads like this if each of them does (`Reads.bind`), so that it holds
of networks, of peers and of whole images.

The main theorem puts both halves together: an image can be read exactly if it
is self-delimiting, what follows its records has no meaning, and every shorter
piece of it is refused with the record at which it ends.
-/

namespace Tunnel.Image

/-! ## Readers -/

/-- What takes a value off the front of some octets. -/
abbrev Reader (α : Type) :=
  List UInt8 → Except Error (α × List UInt8)

section Readers

variable {α β : Type} {image : List UInt8} {start middle stop : Nat}

/--
A reader takes a value from the octets between two offsets of an image, and
asks for some records there.
-/
structure Reads (image : List UInt8) (reader : Reader α) (start stop : Nat)
    (value : α) (records : Nat → Nat → Prop) : Prop where
  ordered : start ≤ stop
  /-- No record begins before the reader does. -/
  behind : ∀ place size, records place size → start ≤ place
  /-- What stands behind the last octet that is taken has no meaning. -/
  whole : ∀ other : List UInt8, other.take stop = image.take stop →
    reader (other.drop start) = .ok (value, other.drop stop)
  /-- Octets that end inside a record are refused there. -/
  cut : ∀ place size, records place size →
    ∀ offset, place ≤ offset → offset < place + size →
      reader ((image.take offset).drop start) =
        .error (.truncated size (offset - place))

namespace Reads

variable {reader : Reader α} {value : α} {records fewer : Nat → Nat → Prop}

theorem nothing (value : α) :
    Reads image (fun rest => .ok (value, rest)) start start value
      fun _ _ => False where
  ordered := Nat.le_refl start
  behind := fun _ _ none => none.elim
  whole := fun _ _ => rfl
  cut := fun _ _ none => none.elim

/-- It is enough to know some of the records. -/
theorem mono (reads : Reads image reader start stop value records)
    (among : ∀ place size, fewer place size → records place size) :
    Reads image reader start stop value fewer where
  ordered := reads.ordered
  behind := fun place size asked =>
    reads.behind place size (among place size asked)
  whole := reads.whole
  cut := fun place size asked =>
    reads.cut place size (among place size asked)

/-- What is read after a first value depends on that value. -/
theorem bind {result : β} {more : Nat → Nat → Prop}
    (first : Reads image reader start middle value records)
    (next : α → Reader β)
    (second : Reads image (next value) middle stop result more) :
    Reads image (fun rest => reader rest >>= fun read => next read.1 read.2)
      start stop result
      (fun place size => records place size ∨ more place size) where
  ordered := first.ordered.trans second.ordered
  behind := by
    rintro place size (early | late)
    · exact first.behind place size early
    · exact first.ordered.trans (second.behind place size late)
  whole := by
    intro other same
    have front : other.take middle = image.take middle := by
      have both := congrArg (List.take middle) same
      rw [List.take_take, List.take_take,
        Nat.min_eq_left second.ordered] at both
      exact both
    rw [first.whole other front]
    exact second.whole other same
  cut := by
    rintro place size (early | late) offset reached inside
    · rw [first.cut place size early offset reached inside]
      rfl
    · have behindFirst : middle ≤ offset :=
        (second.behind place size late).trans reached
      have front : (image.take offset).take middle = image.take middle := by
        rw [List.take_take, Nat.min_eq_left behindFirst]
      rw [first.whole _ front]
      exact second.cut place size late offset reached inside

/-- A value may be put into another one after it was read. -/
theorem map (reads : Reads image reader start stop value records)
    (make : α → β) :
    Reads image
      (fun rest => reader rest >>= fun read => .ok (make read.1, read.2))
      start stop (make value) records := by
  have both := reads.bind (fun value rest => .ok (make value, rest))
    (nothing (make value))
  exact both.mono fun _ _ asked => Or.inl asked

end Reads

/-- The next record is asked for and taken as it stands. -/
theorem reads_takeRecord {size : Nat} (some : 0 < size)
    (room : start + size ≤ image.length) :
    ∃ record : Octets size, Holds image start record.toList ∧
      Reads image (takeRecord size) start (start + size) record
        fun place width => place = start ∧ width = size := by
  have enough : ((image.drop start).take size).length = size := by
    rw [List.length_take, List.length_drop]
    omega
  refine ⟨⟨(image.drop start).take size, enough⟩, List.take_prefix _ _,
    Nat.le_add_right start size, ?_, ?_, ?_⟩
  · rintro place width ⟨rfl, -⟩
    exact Nat.le_refl place
  · intro other same
    have own : (other.drop start).take size =
        (image.drop start).take size := by
      have both := congrArg (List.drop start) same
      rw [List.drop_take, List.drop_take, Nat.add_sub_cancel_left] at both
      exact both
    have parts : other.drop start =
        (image.drop start).take size ++ other.drop (start + size) := by
      rw [← own, ← List.drop_drop, List.take_append_drop]
    rw [parts]
    exact takeRecord_append enough _
  · rintro place width ⟨rfl, rfl⟩ offset reached inside
    have length : ((image.take offset).drop place).length =
        offset - place := by
      rw [List.length_drop, List.length_take]
      omega
    have short : ¬ width ≤ ((image.take offset).drop place).length := by
      omega
    rw [takeRecord, Octets.take?, dif_neg short, length]

end Readers

/-! ## Networks, peers and images -/

section Records

variable {image : List UInt8}

/-- Networks that can be read are read one by one. -/
theorem reads_networks {count start : Nat}
    (inside : start + 24 * count ≤ image.length)
    (known : ∀ number < count, IsNetworkAt image (start + 24 * number)) :
    ∃ networks, networks.length = count ∧
      Reads image (readNetworks count) start (start + 24 * count) networks
        fun place size =>
          ∃ number < count, place = start + 24 * number ∧ size = 24 := by
  induction count generalizing start with
  | zero =>
      refine ⟨[], rfl, (Reads.nothing []).mono ?_⟩
      rintro place size ⟨number, none, -⟩
      exact absurd none (Nat.not_lt_zero number)
  | succ count ih =>
      have next : start + 24 + 24 * count = start + 24 * (count + 1) := by
        omega
      have room : start + 24 ≤ image.length := by omega
      rcases reads_takeRecord (by decide) room with ⟨record, held, first⟩
      rcases (exists_networkOf_iff held).2 (known 0 (Nat.succ_pos count))
        with ⟨network, own⟩
      have others : ∀ number < count,
          IsNetworkAt image (start + 24 + 24 * number) := by
        intro number smaller
        have same : start + 24 + 24 * number = start + 24 * (number + 1) := by
          omega
        rw [same]
        exact known (number + 1) (Nat.succ_lt_succ smaller)
      rcases ih (by omega) others with ⟨networks, length, rest⟩
      rw [next] at rest
      refine ⟨network :: networks, congrArg (· + 1) length, ?_⟩
      have both := first.bind (fun record rest =>
        networkOf record >>= fun network =>
          readNetworks count rest >>= fun read =>
            .ok (network :: read.1, read.2))
        (by rw [own]; exact rest.map (network :: ·))
      refine both.mono ?_
      rintro place size ⟨number, smaller, rfl, rfl⟩
      cases number with
      | zero => exact Or.inl ⟨rfl, rfl⟩
      | succ number =>
          exact Or.inr ⟨number, Nat.lt_of_succ_lt_succ smaller, by omega, rfl⟩

/-- The records of a peer: its own, and one for each of its networks. -/
def IsPeerRecord (image : List UInt8) (start place size : Nat) : Prop :=
  (place = start ∧ size = 136) ∨
    ∃ number < networkCount image start,
      place = start + 136 + 24 * number ∧ size = 24

/--
Peers that can be read are read one by one, and take as many octets as their
networks need.
-/
theorem reads_peers {count start : Nat}
    (inside : (peerEnd image)^[count] start ≤ image.length)
    (known : ∀ index < count,
      IsPeerAt image ((peerEnd image)^[index] start)) :
    ∃ peers,
      start + (peers.flatMap fun peer => peerOctets peer.1).length =
          (peerEnd image)^[count] start ∧
        Reads image (readPeers count) start ((peerEnd image)^[count] start)
          peers fun place size =>
            ∃ index < count,
              IsPeerRecord image ((peerEnd image)^[index] start)
                place size := by
  induction count generalizing start with
  | zero =>
      refine ⟨[], rfl, (Reads.nothing []).mono ?_⟩
      rintro place size ⟨index, none, -⟩
      exact absurd none (Nat.not_lt_zero index)
  | succ count ih =>
      have reach : peerEnd image start ≤ image.length :=
        (le_iterate_peerEnd image count _).trans inside
      have room : start + 136 + 24 * networkCount image start ≤
        image.length := reach
      have own : IsPeerAt image start := known 0 (Nat.succ_pos count)
      have front : start + 136 ≤ image.length :=
        (Nat.le_add_right _ _).trans room
      rcases reads_takeRecord (by decide) front with ⟨record, held, first⟩
      rcases (exists_readPeerEndpoint_iff held).2 own.endpoint
        with ⟨endpoint, reached⟩
      rcases reads_networks room own.networks with
        ⟨networks, length, second⟩
      rcases ih inside (fun index smaller =>
          known (index + 1) (Nat.succ_lt_succ smaller)) with
        ⟨peers, size, third⟩
      have counted := toNat_allowedIpCount held
      let fields := PeerRecord.ofOctets record
      let peer := (readPeer fields endpoint networks, fields.stats)
      refine ⟨peer :: peers, ?_, ?_⟩
      · rw [List.flatMap_cons, List.length_append, length_peerOctets,
          peerSize, Function.iterate_succ_apply, ← size, peerEnd, ← length]
        simp only [peer, readPeer, PeerRecord.size, networkSize]
        omega
      · have pair := second.bind (fun networks rest =>
          readPeers count rest >>= fun read =>
            .ok ((readPeer fields endpoint networks, fields.stats) :: read.1,
              read.2))
          (third.map (peer :: ·))
        have all := first.bind (fun record rest =>
          readPeerEndpoint (PeerRecord.ofOctets record) >>= fun endpoint =>
            readNetworks
                (PeerRecord.ofOctets record).allowedIpCount.toNat rest >>=
              fun networks => readPeers count networks.2 >>= fun read =>
                .ok ((readPeer (PeerRecord.ofOctets record) endpoint
                    networks.1, (PeerRecord.ofOctets record).stats) ::
                  read.1, read.2))
          (by rw [reached, counted]; exact pair)
        refine all.mono ?_
        rintro place size ⟨index, smaller, among⟩
        cases index with
        | zero => exact among.imp_right Or.inl
        | succ index =>
            exact Or.inr (Or.inr
              ⟨index, Nat.lt_of_succ_lt_succ smaller, among⟩)

/-- The records of an image: its first one, and those of its peers. -/
theorem isRecord_cases {place size : Nat} (counted : IsRecord image place size) :
    (place = 0 ∧ size = 80) ∨
      ∃ index < peerCount image,
        IsPeerRecord image (peerPlace image index) place size := by
  cases counted with
  | interface => exact Or.inl ⟨rfl, rfl⟩
  | peer counted => exact Or.inr ⟨_, counted, Or.inl ⟨rfl, rfl⟩⟩
  | network counted listed =>
      exact Or.inr ⟨_, counted, Or.inr ⟨_, listed, rfl, rfl⟩⟩

end Records

/-! ## Whole images -/

/-- What the records of an image say. -/
def describe (record : InterfaceRecord)
    (peers : List (Config.Peer × PeerStats)) : Decoded where
  config :=
    { interface := readInterface record, peers := peers.map (·.1) }
  stats := peers.map (·.2)

/-- Reading an image, with the octets behind its records. -/
def readImage : Reader Decoded := fun rest =>
  takeRecord 80 rest >>= fun first =>
    let record := InterfaceRecord.ofOctets first.1
    readPeers record.peerCount.toNat first.2 >>= fun peers =>
      .ok (describe record peers.1, peers.2)

theorem decode_eq_map (image : List UInt8) :
    decode image = (readImage image).map Prod.fst := by
  rw [decode, readImage]
  cases takeRecord 80 image with
  | error error => rfl
  | ok first =>
      simp only [bind, Except.bind]
      cases readPeers _ first.2 <;> rfl

/-- A self-delimiting image is read up to the end of its records. -/
theorem reads_readImage {image : List UInt8}
    (formed : IsSelfDelimiting image) :
    ∃ decoded, requiredSize decoded.config = recordsEnd image ∧
      Reads image readImage 0 (recordsEnd image) decoded
        (IsRecord image) := by
  have start : 80 ≤ recordsEnd image := le_iterate_peerEnd image _ 80
  have room : 0 + 80 ≤ image.length := start.trans formed.inside
  rcases reads_takeRecord (by decide) room with ⟨record, held, first⟩
  rcases reads_peers formed.inside formed.peers with ⟨peers, size, second⟩
  refine ⟨describe (InterfaceRecord.ofOctets record) peers, ?_, ?_⟩
  · rw [← length_octets, octets, List.length_append,
      InterfaceRecord.length_toOctets, describe, List.flatMap_map]
    exact size
  · have all := first.bind
      (fun record rest =>
        readPeers (InterfaceRecord.ofOctets record).peerCount.toNat rest >>=
          fun peers => .ok (describe (InterfaceRecord.ofOctets record) peers.1,
            peers.2))
      (by
        rw [toNat_peerCount held]
        exact second.map (describe (InterfaceRecord.ofOctets record)))
    exact all.mono fun _ _ => isRecord_cases

/--
An image can be read exactly if it is self-delimiting.  Then the configuration
needs as many octets as the records of the image; the octets behind them may
be any others, or none; and an image that ends inside one of its records is
refused with the size of this record and the count of its octets that are
there.
-/
theorem decode_selfDelimiting (image : List UInt8) :
    ((∃ decoded, decode image = .ok decoded) ↔ IsSelfDelimiting image) ∧
      ∀ decoded, decode image = .ok decoded →
        let size := requiredSize decoded.config
        size = recordsEnd image ∧ size ≤ image.length ∧
          (∀ rest, decode (image.take size ++ rest) = .ok decoded) ∧
          (∀ offset < size, ∃ place width, IsRecord image place width ∧
            place ≤ offset ∧ offset < place + width) ∧
          ∀ place width, IsRecord image place width →
            ∀ offset, place ≤ offset → offset < place + width →
              decode (image.take offset) =
                .error (.truncated width (offset - place)) := by
  constructor
  · constructor
    · rintro ⟨decoded, read⟩
      exact isSelfDelimiting_of_decode read
    · intro formed
      rcases reads_readImage formed with ⟨decoded, -, reads⟩
      refine ⟨decoded, ?_⟩
      have whole := reads.whole image rfl
      rw [List.drop_zero] at whole
      rw [decode_eq_map, whole]
      rfl
  · intro decoded read size
    have formed := isSelfDelimiting_of_decode read
    rcases reads_readImage formed with ⟨other, length, reads⟩
    have agree : ∀ more : List UInt8,
        more.take (recordsEnd image) = image.take (recordsEnd image) →
          decode more = .ok other := by
      intro more same
      have whole := reads.whole more same
      rw [List.drop_zero] at whole
      rw [decode_eq_map, whole]
      rfl
    have same : other = decoded :=
      Except.ok.inj ((agree image rfl).symm.trans read)
    subst same
    refine ⟨length, length.trans_le formed.inside, ?_, ?_, ?_⟩
    · intro rest
      apply agree
      have front : (image.take size).length = size := by
        rw [List.length_take]
        exact Nat.min_eq_left (length.trans_le formed.inside)
      rw [← length, List.take_append_of_le_length (Nat.le_of_eq front.symm),
        List.take_take, Nat.min_self]
    · intro offset below
      exact exists_isRecord (below.trans_eq length)
    · intro place width counted offset reached inside
      have stopped := reads.cut place width counted offset reached inside
      rw [List.drop_zero] at stopped
      rw [decode_eq_map, stopped]
      rfl

/--
One octet stands behind the records of `staleImage`, which may be followed by
others; cut inside its only network, the image is refused there.
-/
theorem decode_selfDelimiting_staleImage :
    decode staleImage = .ok staleDecoded ∧ IsSelfDelimiting staleImage ∧
      requiredSize staleDecoded.config = 240 ∧ staleImage.length = 241 ∧
      (∀ rest, decode (staleImage.take 240 ++ rest) = .ok staleDecoded) ∧
      IsRecord staleImage 216 24 ∧
      decode (staleImage.take 230) = .error (.truncated 24 14) := by
  rcases decode_selfDelimiting staleImage with ⟨accepts, of⟩
  rcases of staleDecoded decode_staleImage with ⟨-, -, longer, -, shorter⟩
  have formed := accepts.1 ⟨staleDecoded, decode_staleImage⟩
  have network : IsRecord staleImage
      (peerPlace staleImage 0 + 136 + 24 * 0) 24 :=
    .network (by decide) (by decide)
  exact ⟨decode_staleImage, formed, rfl, rfl, longer, network,
    shorter 216 24 network 230 (by decide) (by decide)⟩

end Tunnel.Image
