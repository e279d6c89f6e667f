import Tunnel.Proofs.Image.Flag
import Tunnel.Proofs.Image.Record
import Tunnel.Proofs.Image.Writing
import Tunnel.Proofs.Prefix

/-!
# The layout of an image

The driver finds a field by its offset: the interface record stands at the
start of an image, a peer stands behind the peers before it and their
networks, and every field has a fixed place in its record.  `HasLayout` says
what an image holds at each of these places, in numbers, keys and addresses,
and without any of the functions that write or read it.

The main theorem says that the image of a configuration has this layout, and
that nothing else has it, so that the layout fixes every octet.  Both halves
come from one equivalence: to hold octets in a row is to hold each of them
behind the others (`holds_append`, `holds_flatMap`), which takes an image
apart into its records and a record into its fields.
-/

namespace Tunnel.Image

/-! ## What stands at an offset -/

/-- An image holds some octets from an offset on. -/
def Holds (image : List UInt8) (offset : Nat) (octets : List UInt8) : Prop :=
  octets <+: image.drop offset

/-- An image holds zeros only. -/
def HoldsZeros (image : List UInt8) (offset width : Nat) : Prop :=
  Holds image offset (List.replicate width 0)

/-- An image holds a number, least significant octet first. -/
def HoldsNumber (image : List UInt8) (offset width value : Nat) : Prop :=
  ∃ octets, Holds image offset octets ∧ octets.length = width ∧
    littleEndianValue octets = value

/-- An image holds a number, most significant octet first. -/
def HoldsNetworkNumber (image : List UInt8) (offset width value : Nat) :
    Prop :=
  ∃ octets, Holds image offset octets ∧ octets.length = width ∧
    bigEndianValue octets = value

/-- An image holds a key, or zeros in its place. -/
def HoldsKey (image : List UInt8) (offset : Nat) : Option Key → Prop
  | some key => Holds image offset key.octets.toList
  | none => HoldsZeros image offset 32

/-- The flag at some bit, if a field is there. -/
def presence {α : Type} (field : Option α) (bit : Nat) : Nat :=
  if field.isSome then 2 ^ bit else 0

/-! ## Records by their offsets -/

/-- An image holds an interface record of 80 octets at its start. -/
structure HoldsInterface (image : List UInt8) (interface : Config.Interface)
    (peerCount : Nat) : Prop where
  /-- Bit 3 asks for the peers to be replaced. -/
  flags :
    HoldsNumber image 0 4
      (2 ^ 3 + presence interface.publicKey 0 +
        presence interface.privateKey 1 + presence interface.listenPort 2)
  listenPort :
    HoldsNumber image 4 2 (interface.listenPort.getD 0).toNat
  privateKey : HoldsKey image 6 interface.privateKey
  publicKey : HoldsKey image 38 interface.publicKey
  padding : HoldsZeros image 70 2
  peerCount : HoldsNumber image 72 4 peerCount
  rest : HoldsZeros image 76 4

/-- An image holds an endpoint in 28 octets, or zeros in its place. -/
def HoldsEndpoint (image : List UInt8) (offset : Nat) :
    Option Endpoint → Prop
  | none => HoldsZeros image offset 28
  | some (.ipv4 address port) =>
      HoldsNumber image offset 2 2 ∧
        HoldsNetworkNumber image (offset + 2) 2 port.toNat ∧
        Holds image (offset + 4) address.toList ∧
        HoldsZeros image (offset + 8) 20
  | some (.ipv6 address port flow scope) =>
      HoldsNumber image offset 2 23 ∧
        HoldsNetworkNumber image (offset + 2) 2 port.toNat ∧
        HoldsNetworkNumber image (offset + 4) 4 flow.toNat ∧
        Holds image (offset + 8) address.toList ∧
        HoldsNumber image (offset + 24) 4 scope.toNat

/-- An image holds an address in 16 octets and the number of its family. -/
def HoldsAddress (image : List UInt8) (offset : Nat) : IpAddress → Prop
  | .ipv4 address =>
      Holds image offset address.toList ∧
        HoldsZeros image (offset + 4) 12 ∧
        HoldsNumber image (offset + 16) 2 2
  | .ipv6 address =>
      Holds image offset address.toList ∧
        HoldsNumber image (offset + 16) 2 23

/-- An image holds an allowed network in 24 octets. -/
structure HoldsNetwork (image : List UInt8) (offset : Nat)
    (network : Prefix) : Prop where
  address : HoldsAddress image offset network.address
  length : HoldsNumber image (offset + 18) 1 network.length
  padding : HoldsZeros image (offset + 19) 5

/-- An image holds a peer record of 136 octets, and the peer's networks. -/
structure HoldsPeer (image : List UInt8) (offset : Nat)
    (peer : Config.Peer) : Prop where
  /-- Bit 5 asks for the allowed networks to be replaced. -/
  flags :
    HoldsNumber image offset 4
      (2 ^ 5 + presence peer.publicKey 0 + presence peer.presharedKey 1 +
        presence peer.persistentKeepalive 2 + presence peer.endpoint 3)
  /-- Bit 6 would remove the peer, and bit 7 only update it. -/
  replaced : ∀ flags, HoldsNumber image offset 4 flags →
    flags.testBit 6 = false ∧ flags.testBit 7 = false
  reserved : HoldsZeros image (offset + 4) 4
  publicKey : HoldsKey image (offset + 8) peer.publicKey
  presharedKey : HoldsKey image (offset + 40) peer.presharedKey
  persistentKeepalive :
    HoldsNumber image (offset + 72) 2 (peer.persistentKeepalive.getD 0).toNat
  padding : HoldsZeros image (offset + 74) 2
  endpoint : HoldsEndpoint image (offset + 76) peer.endpoint
  counters : HoldsZeros image (offset + 104) 24
  allowedIpCount :
    HoldsNumber image (offset + 128) 4 peer.allowedIps.length
  rest : HoldsZeros image (offset + 132) 4
  allowedIps : ∀ index network, peer.allowedIps[index]? = some network →
    HoldsNetwork image (offset + 136 + 24 * index) network

/-- The count of octets for some peers and their networks. -/
def extent (peers : List Config.Peer) : Nat :=
  (peers.map fun peer => 136 + 24 * peer.allowedIps.length).sum

/-- What an image holds at each place, and where it ends. -/
structure HasLayout (config : Config) (image : List UInt8) : Prop where
  interface : HoldsInterface image config.interface config.peers.length
  peers : ∀ index peer, config.peers[index]? = some peer →
    HoldsPeer image (80 + extent (config.peers.take index)) peer
  length : image.length = 80 + extent config.peers

/-! ## Octets in a row -/

section Holds

variable {image : List UInt8} {offset : Nat}

theorem holds_nil : Holds image offset [] :=
  List.nil_prefix

/-- To hold octets in a row is to hold the second ones behind the first. -/
theorem holds_append {front back : List UInt8} :
    Holds image offset (front ++ back) ↔
      Holds image offset front ∧ Holds image (offset + front.length) back := by
  unfold Holds
  rw [← List.drop_drop]
  constructor
  · rintro ⟨rest, whole⟩
    rw [← whole, List.append_assoc, List.drop_left]
    exact ⟨List.prefix_append _ _, List.prefix_append _ _⟩
  · rintro ⟨⟨rest, whole⟩, second⟩
    rw [← whole, List.drop_left] at second
    rw [← whole]
    exact (List.prefix_append_right_inj front).2 second

/-- Records in a row stand each behind all records before it. -/
theorem holds_flatMap {α : Type} {items : List α} {record : α → List UInt8} :
    Holds image offset (items.flatMap record) ↔
      ∀ index item, items[index]? = some item →
        Holds image (offset + ((items.take index).flatMap record).length)
          (record item) := by
  induction items generalizing offset with
  | nil => simp [holds_nil]
  | cons first rest ih =>
      rw [List.flatMap_cons, holds_append, ih]
      constructor
      · rintro ⟨held, others⟩ index item found
        cases index with
        | zero =>
            cases found
            exact held
        | succ index =>
            rw [List.take_succ_cons, List.flatMap_cons, List.length_append,
              ← Nat.add_assoc]
            exact others index item found
      · intro each
        refine ⟨each 0 first rfl, fun index item found => ?_⟩
        have placed := each (index + 1) item found
        rw [List.take_succ_cons, List.flatMap_cons, List.length_append,
          ← Nat.add_assoc] at placed
        exact placed

/-- Two octet strings of one length at one place are the same. -/
theorem Holds.unique {left right : List UInt8} (first : Holds image offset left)
    (second : Holds image offset right) (length : left.length = right.length) :
    left = right :=
  (List.prefix_of_prefix_length_le first second
    (Nat.le_of_eq length)).eq_of_length length

/-- An octet string that holds as many octets from its start is these octets. -/
theorem eq_of_holds {octets : List UInt8} (held : Holds image 0 octets)
    (length : image.length = octets.length) : image = octets :=
  (List.IsPrefix.eq_of_length held length.symm).symm

/-! ## Numbers -/

theorem holdsNumber_iff {width value : Nat} (fits : value < 256 ^ width) :
    HoldsNumber image offset width value ↔
      Holds image offset (littleEndian width value) := by
  constructor
  · rintro ⟨octets, held, rfl, rfl⟩
    rw [littleEndian_littleEndianValue]
    exact held
  · intro held
    exact ⟨_, held, length_littleEndian width value,
      littleEndianValue_littleEndian fits⟩

theorem holdsNetworkNumber_iff {width value : Nat}
    (fits : value < 256 ^ width) :
    HoldsNetworkNumber image offset width value ↔
      Holds image offset (bigEndian width value) := by
  constructor
  · rintro ⟨octets, held, rfl, rfl⟩
    rw [bigEndian_bigEndianValue]
    exact held
  · intro held
    exact ⟨_, held, length_bigEndian width value,
      bigEndianValue_bigEndian fits⟩

theorem HoldsNumber.unique {width first second : Nat}
    (one : HoldsNumber image offset width first)
    (other : HoldsNumber image offset width second) : first = second := by
  obtain ⟨left, heldLeft, lengthLeft, rfl⟩ := one
  obtain ⟨right, heldRight, lengthRight, rfl⟩ := other
  rw [heldLeft.unique heldRight (lengthLeft.trans lengthRight.symm)]

theorem holds_word16_iff {value : UInt16} :
    Holds image offset (word16 value) ↔
      HoldsNumber image offset 2 value.toNat :=
  (holdsNumber_iff value.toNat_lt).symm

theorem holds_word32_iff {value : UInt32} :
    Holds image offset (word32 value) ↔
      HoldsNumber image offset 4 value.toNat :=
  (holdsNumber_iff value.toNat_lt).symm

theorem holds_port16_iff {value : UInt16} :
    Holds image offset (port16 value) ↔
      HoldsNetworkNumber image offset 2 value.toNat :=
  (holdsNetworkNumber_iff value.toNat_lt).symm

theorem holds_flow32_iff {value : UInt32} :
    Holds image offset (flow32 value) ↔
      HoldsNetworkNumber image offset 4 value.toNat :=
  (holdsNetworkNumber_iff value.toNat_lt).symm

theorem holds_gap_iff {width : Nat} :
    Holds image offset (gap width) ↔ HoldsZeros image offset width :=
  Iff.rfl

theorem holdsZeros_add (first second : Nat) :
    HoldsZeros image offset (first + second) ↔
      HoldsZeros image offset first ∧
        HoldsZeros image (offset + first) second := by
  unfold HoldsZeros
  rw [← List.replicate_append_replicate, holds_append,
    List.length_replicate]

theorem holds_keyOrZero_iff {key : Option Key} :
    Holds image offset (keyOrZero key).octets.toList ↔
      HoldsKey image offset key := by
  cases key <;> rfl

end Holds

/-! ## Flags and counters -/

theorem word64_zero : word64 0 = gap 8 := by
  decide

theorem toNat_interfaceFlags : ∀ privateKey publicKey listenPort : Bool,
    (interfaceFlags privateKey publicKey listenPort).toNat =
      2 ^ 3 + (if publicKey then 2 ^ 0 else 0) +
        (if privateKey then 2 ^ 1 else 0) +
        (if listenPort then 2 ^ 2 else 0) := by
  decide

theorem toNat_peerFlags :
    ∀ publicKey presharedKey persistentKeepalive endpoint : Bool,
      (peerFlags publicKey presharedKey persistentKeepalive endpoint).toNat =
        2 ^ 5 + (if publicKey then 2 ^ 0 else 0) +
          (if presharedKey then 2 ^ 1 else 0) +
          (if persistentKeepalive then 2 ^ 2 else 0) +
          (if endpoint then 2 ^ 3 else 0) := by
  decide

theorem toNat_peerFlags_lt :
    ∀ publicKey presharedKey persistentKeepalive endpoint : Bool,
      (peerFlags publicKey presharedKey persistentKeepalive endpoint).toNat <
        2 ^ 6 := by
  decide

/-! ## Records field by field -/

section Records

variable {image : List UInt8} {offset : Nat}

theorem holds_interfaceRecord_iff {interface : Config.Interface}
    {count : UInt32} :
    Holds image 0 (interfaceRecord interface count).toOctets ↔
      HoldsInterface image interface count.toNat := by
  have flags := toNat_interfaceFlags interface.privateKey.isSome
    interface.publicKey.isSome interface.listenPort.isSome
  rw [← flags_interfaceRecord interface count] at flags
  simp only [InterfaceRecord.toOctets, holds_append, List.length_append,
    length_word32, length_word16, length_gap, Octets.length_toList,
    holds_word32_iff, holds_word16_iff, holds_gap_iff, flags]
  simp only [interfaceRecord, holds_keyOrZero_iff]
  constructor
  · rintro ⟨⟨⟨⟨⟨⟨flags, port⟩, privateKey⟩, publicKey⟩, padding⟩, count⟩,
      rest⟩
    exact ⟨flags, port, privateKey, publicKey, padding, count, rest⟩
  · rintro ⟨flags, port, privateKey, publicKey, padding, count, rest⟩
    exact ⟨⟨⟨⟨⟨⟨flags, port⟩, privateKey⟩, publicKey⟩, padding⟩, count⟩,
      rest⟩

theorem holds_endpointOrZero_iff {endpoint : Option Endpoint} :
    Holds image offset (endpointOrZero endpoint).toList ↔
      HoldsEndpoint image offset endpoint := by
  rcases endpoint with _ | ⟨address, port⟩ | ⟨address, port, flow, scope⟩
  · rfl
  · simp only [endpointOrZero, endpointOctets, holds_append,
      List.length_append, length_word16, length_port16,
      Octets.length_toList, holds_word16_iff, holds_port16_iff,
      holds_gap_iff, HoldsEndpoint, and_assoc]
    rfl
  · simp only [endpointOrZero, endpointOctets, holds_append,
      List.length_append, length_word16, length_port16, length_flow32,
      Octets.length_toList, holds_word16_iff, holds_word32_iff,
      holds_port16_iff, holds_flow32_iff, HoldsEndpoint, and_assoc]
    rfl

theorem holds_networkRecord_iff {network : Prefix} :
    Holds image offset (networkRecord network) ↔
      HoldsNetwork image offset network := by
  have small : network.length < 256 ^ 1 := network.length_lt_octet
  have octet : [UInt8.ofNat network.length] =
      littleEndian 1 network.length := rfl
  rcases network with ⟨address, length, bounded⟩
  simp only [networkRecord, networkOctets, octet] at small ⊢
  cases address with
  | ipv4 address =>
      simp only [holds_append, List.length_append, IpAddress.length_toList,
        length_word16, length_gap, length_littleEndian, holds_word16_iff,
        holds_gap_iff, ← holdsNumber_iff small]
      constructor
      · rintro ⟨⟨⟨⟨address, stale⟩, family⟩, length⟩, padding⟩
        exact ⟨⟨address, stale, family⟩, length, padding⟩
      · rintro ⟨⟨address, stale, family⟩, length, padding⟩
        exact ⟨⟨⟨⟨address, stale⟩, family⟩, length⟩, padding⟩
  | ipv6 address =>
      simp only [holds_append, List.length_append, IpAddress.length_toList,
        length_word16, length_gap, length_littleEndian, holds_word16_iff,
        holds_gap_iff, ← holdsNumber_iff small]
      constructor
      · rintro ⟨⟨⟨⟨address, -⟩, family⟩, length⟩, padding⟩
        exact ⟨⟨address, family⟩, length, padding⟩
      · rintro ⟨⟨address, family⟩, length, padding⟩
        exact ⟨⟨⟨⟨address, holds_nil⟩, family⟩, length⟩, padding⟩

theorem length_take_networks (networks : List Prefix) {index : Nat}
    (inside : index < networks.length) :
    ((networks.take index).flatMap networkRecord).length = 24 * index := by
  rw [length_networks, List.length_take, Nat.min_eq_left (by omega),
    Nat.mul_comm]
  rfl

theorem holds_networks_iff {networks : List Prefix} :
    Holds image offset (networks.flatMap networkRecord) ↔
      ∀ index network, networks[index]? = some network →
        HoldsNetwork image (offset + 24 * index) network := by
  rw [holds_flatMap]
  apply forall₂_congr
  intro index network
  apply imp_congr_right
  intro found
  have inside := (List.getElem?_eq_some_iff.1 found).1
  rw [length_take_networks networks inside]
  exact holds_networkRecord_iff

/-- A peer's record and networks, for the count of its networks. -/
theorem holds_peerRecord_iff {peer : Config.Peer} {count : UInt32}
    (counted : count.toNat = peer.allowedIps.length) :
    Holds image offset ((peerRecord peer count).toOctets ++
        peer.allowedIps.flatMap networkRecord) ↔
      HoldsPeer image offset peer := by
  have flags := toNat_peerFlags peer.publicKey.isSome
    peer.presharedKey.isSome peer.persistentKeepalive.isSome
    peer.endpoint.isSome
  rw [← flags_peerRecord peer count] at flags
  have small := toNat_peerFlags_lt peer.publicKey.isSome
    peer.presharedKey.isSome peer.persistentKeepalive.isSome
    peer.endpoint.isSome
  rw [← flags_peerRecord peer count, flags] at small
  rw [holds_append, PeerRecord.length_toOctets, holds_networks_iff]
  simp only [PeerRecord.toOctets, holds_append, List.length_append,
    length_word32, length_word16, length_word64, length_gap,
    Octets.length_toList, holds_word32_iff, holds_word16_iff,
    holds_gap_iff, flags]
  simp only [peerRecord, holds_keyOrZero_iff, holds_endpointOrZero_iff,
    word64_zero, holds_gap_iff, counted]
  constructor
  · rintro ⟨⟨⟨⟨⟨⟨⟨⟨⟨⟨⟨⟨flags, reserved⟩, publicKey⟩, presharedKey⟩,
      keepalive⟩, padding⟩, endpoint⟩, sent⟩, received⟩, handshake⟩, count⟩,
      rest⟩, networks⟩
    refine ⟨flags, fun other held => ?_, reserved, publicKey, presharedKey,
      keepalive, padding, endpoint, ?_, count, rest, networks⟩
    · rw [← flags.unique held]
      exact ⟨Nat.testBit_lt_two_pow small,
        Nat.testBit_lt_two_pow (small.trans (by decide))⟩
    · exact (holdsZeros_add 16 8).2
        ⟨(holdsZeros_add 8 8).2 ⟨sent, received⟩, handshake⟩
  · intro held
    obtain ⟨first, handshake⟩ := (holdsZeros_add 16 8).1 held.counters
    obtain ⟨sent, received⟩ := (holdsZeros_add 8 8).1 first
    exact ⟨⟨⟨⟨⟨⟨⟨⟨⟨⟨⟨⟨held.flags, held.reserved⟩, held.publicKey⟩,
      held.presharedKey⟩, held.persistentKeepalive⟩, held.padding⟩,
      held.endpoint⟩, sent⟩, received⟩, handshake⟩, held.allowedIpCount⟩,
      held.rest⟩, held.allowedIps⟩

theorem holds_peerOctets_iff {peer : Config.Peer}
    (fits : peer.allowedIps.length < 2 ^ 32) :
    Holds image offset (peerOctets peer) ↔ HoldsPeer image offset peer :=
  holds_peerRecord_iff (UInt32.toNat_ofNat_of_lt' fits)

end Records

/-! ## Whole images -/

section Images

variable {config : Config} {image : List UInt8}

theorem length_peers_eq_extent (peers : List Config.Peer) :
    (peers.flatMap peerOctets).length = extent peers := by
  induction peers with
  | nil => rfl
  | cons peer rest ih =>
      have first : peerSize peer = 136 + 24 * peer.allowedIps.length := by
        rw [Nat.mul_comm]
        rfl
      rw [List.flatMap_cons, List.length_append, length_peerOctets, ih, first]
      rfl

theorem length_octets_eq_extent (config : Config) :
    (octets config).length = 80 + extent config.peers := by
  rw [octets, List.length_append, InterfaceRecord.length_toOctets,
    length_peers_eq_extent]
  rfl

/-- The octets of a configuration are what the layout says. -/
theorem hasLayout_iff (fit : CountsFit config) :
    HasLayout config image ↔ image = octets config := by
  have counted : (UInt32.ofNat config.peers.length).toNat =
      config.peers.length :=
    UInt32.toNat_ofNat_of_lt' fit.peers
  have records : Holds image 0 (octets config) ↔
      HoldsInterface image config.interface config.peers.length ∧
        ∀ index peer, config.peers[index]? = some peer →
          HoldsPeer image (80 + extent (config.peers.take index)) peer := by
    rw [octets, holds_append, holds_interfaceRecord_iff, counted,
      InterfaceRecord.length_toOctets, holds_flatMap]
    apply and_congr_right'
    apply forall₂_congr
    intro index peer
    apply imp_congr_right
    intro found
    rw [length_peers_eq_extent]
    have inside := List.mem_of_getElem? found
    exact holds_peerOctets_iff (fit.allowedIps peer inside)
  constructor
  · rintro ⟨interface, peers, length⟩
    apply eq_of_holds (records.2 ⟨interface, peers⟩)
    rw [length, length_octets_eq_extent]
  · rintro rfl
    obtain ⟨interface, peers⟩ := records.1 (List.prefix_refl _)
    exact ⟨interface, peers, length_octets_eq_extent config⟩

end Images

/--
A configuration whose counts fit compiles to an image that has the layout of
the configuration, and no other octets have this layout.
-/
theorem compile_hasLayout (config : Config) (fit : CountsFit config) :
    ∃ image, compile config = .ok image ∧ HasLayout config image ∧
      ∀ other, HasLayout config other → other = image :=
  ⟨octets config, compile_of_fit fit, (hasLayout_iff fit).2 rfl,
    fun _ => (hasLayout_iff fit).1⟩

/-- The second peer stands behind the record and both networks of the first. -/
theorem compile_hasLayout_secondPeer :
    let second : Config.Peer :=
      { endpoint := some (.ipv4 (Octets.zero 4) 51820) }
    let config : Config :=
      { interface := { publicKey := some ⟨Octets.zero 32⟩ }
        peers :=
          [ { allowedIps :=
                [Prefix.everything .ipv4, Prefix.everything .ipv6] },
            second ] }
    CountsFit config ∧
      ∃ image, compile config = .ok image ∧ HasLayout config image ∧
        (∀ other, HasLayout config other → other = image) ∧
        HoldsNumber image 0 4 9 ∧ HoldsPeer image 264 second ∧
        image.length = 400 := by
  intro second config
  have fit : CountsFit config := ⟨by decide, by decide⟩
  obtain ⟨image, compiled, layout, only⟩ := compile_hasLayout config fit
  refine ⟨fit, image, compiled, layout, only, ?_, ?_, ?_⟩
  · exact layout.interface.flags
  · exact layout.peers 1 second rfl
  · exact layout.length

end Tunnel.Image
