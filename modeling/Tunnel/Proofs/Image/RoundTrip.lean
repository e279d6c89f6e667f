import Tunnel.Image.Decode
import Tunnel.Proofs.Image.Flag
import Tunnel.Proofs.Image.Record
import Tunnel.Proofs.Image.Writing
import Tunnel.Proofs.Prefix

/-!
# An image reads back

Reading is in step with writing: from octets that start with written records,
each reader takes exactly those records and leaves what follows.  Hence an
image describes the configuration that it was compiled from, except for the
addresses of the interface, which an image does not hold.
-/

namespace Tunnel.Image

/-! ## Records in front of other octets -/

theorem takeRecord_append {size : Nat} {record : List UInt8}
    (exact : record.length = size) (rest : List UInt8) :
    takeRecord size (record ++ rest) = .ok (⟨record, exact⟩, rest) := by
  have front := Octets.take?_append ⟨record, exact⟩ rest
  simp only at front
  rw [takeRecord, front]
  simp [← exact]

/-! ## Allowed networks -/

theorem networkOf_eq {octets : Octets 24} {network : Prefix}
    (written : octets.toList = networkRecord network) :
    networkOf octets = .ok network := by
  have small := network.length_lt_octet
  rw [networkOf, readNetwork_eq written]
  simp only [UInt8.toNat_ofNat_of_lt' small, Prefix.make_address_length]
  rfl

/-- Written networks are read, and what follows them is left. -/
theorem readNetworks_append (networks : List Prefix) (rest : List UInt8) :
    readNetworks networks.length (networks.flatMap networkRecord ++ rest) =
      .ok (networks, rest) := by
  induction networks with
  | nil => rfl
  | cons network networks ih =>
      have width : (networkRecord network).length = 24 :=
        length_networkRecord network
      have taken := takeRecord_append width
        (networks.flatMap networkRecord ++ rest)
      have read : networkOf ⟨networkRecord network, width⟩ = .ok network :=
        networkOf_eq rfl
      rw [List.flatMap_cons, List.append_assoc, List.length_cons,
        readNetworks, taken]
      simp only [bind, Except.bind, read, ih]
      rfl

/-! ## Peers -/

theorem readPeer_peerRecord (peer : Config.Peer) (count : UInt32) :
    readPeer (peerRecord peer count) peer.endpoint peer.allowedIps =
      peer := by
  obtain ⟨publicKey, presharedKey, persistentKeepalive, -⟩ :=
    isSet_peerFlags peer.publicKey.isSome peer.presharedKey.isSome
      peer.persistentKeepalive.isSome peer.endpoint.isSome
  rw [← flags_peerRecord peer count] at *
  have first := fieldIf_getD publicKey ⟨Octets.zero 32⟩
  have second := fieldIf_getD presharedKey ⟨Octets.zero 32⟩
  have third := fieldIf_getD persistentKeepalive 0
  simp only [readPeer]
  simp only [peerRecord, keyOrZero] at first second third ⊢
  rw [first, second, third]

theorem readPeerEndpoint_peerRecord (peer : Config.Peer) (count : UInt32) :
    readPeerEndpoint (peerRecord peer count) = .ok peer.endpoint := by
  obtain ⟨-, -, -, present⟩ :=
    isSet_peerFlags peer.publicKey.isSome peer.presharedKey.isSome
      peer.persistentKeepalive.isSome peer.endpoint.isSome
  rw [← flags_peerRecord peer count] at present
  rw [readPeerEndpoint, present]
  cases given : peer.endpoint with
  | none => rfl
  | some endpoint =>
      have written : (peerRecord peer count).endpoint.toList =
          endpointOctets endpoint := by
        simp only [peerRecord, given]
        rfl
      simp only [readEndpoint_eq written]
      rfl

/-- Written peers are read, and what follows them is left. -/
theorem readPeers_append {peers : List Config.Peer}
    (fit : ∀ peer ∈ peers, peer.allowedIps.length < 2 ^ 32)
    (rest : List UInt8) :
    readPeers peers.length (peers.flatMap peerOctets ++ rest) =
      .ok (peers.map fun peer => (peer, {}), rest) := by
  induction peers with
  | nil => rfl
  | cons peer peers ih =>
      have small := fit peer List.mem_cons_self
      have others := ih fun other member =>
        fit other (List.mem_cons_of_mem _ member)
      let count := UInt32.ofNat peer.allowedIps.length
      have counted : count.toNat = peer.allowedIps.length :=
        UInt32.toNat_ofNat_of_lt' small
      have width : (peerRecord peer count).toOctets.length = 136 :=
        PeerRecord.length_toOctets _
      have taken := takeRecord_append width
        (peer.allowedIps.flatMap networkRecord ++
          (peers.flatMap peerOctets ++ rest))
      have record : PeerRecord.ofOctets
          ⟨(peerRecord peer count).toOctets, width⟩ = peerRecord peer count :=
        PeerRecord.ofOctets_eq rfl
      have networks : readNetworks (peerRecord peer count).allowedIpCount.toNat
          (peer.allowedIps.flatMap networkRecord ++
            (peers.flatMap peerOctets ++ rest)) =
          .ok (peer.allowedIps, peers.flatMap peerOctets ++ rest) := by
        rw [show (peerRecord peer count).allowedIpCount = count from rfl,
          counted]
        exact readNetworks_append peer.allowedIps _
      rw [List.flatMap_cons, peerOctets, List.append_assoc,
        List.append_assoc, List.length_cons, readPeers, taken]
      simp only [bind, Except.bind, record, networks, others,
        readPeerEndpoint_peerRecord, readPeer_peerRecord]
      rfl

/-! ## Whole images -/

theorem readInterface_interfaceRecord (interface : Config.Interface)
    (count : UInt32) :
    readInterface (interfaceRecord interface count) =
      { interface with addresses := [] } := by
  obtain ⟨privateKey, publicKey, listenPort⟩ :=
    isSet_interfaceFlags interface.privateKey.isSome
      interface.publicKey.isSome interface.listenPort.isSome
  rw [← flags_interfaceRecord interface count] at *
  have first := fieldIf_getD privateKey ⟨Octets.zero 32⟩
  have second := fieldIf_getD publicKey ⟨Octets.zero 32⟩
  have third := fieldIf_getD listenPort 0
  simp only [readInterface]
  simp only [interfaceRecord, keyOrZero] at first second third ⊢
  rw [first, second, third]

/-- What an image holds of a configuration: all but the addresses. -/
def withoutAddresses (config : Config) : Config :=
  { config with interface := { config.interface with addresses := [] } }

/-- The octets of a configuration are read back, whatever follows them. -/
theorem decode_octets_append {config : Config} (fit : CountsFit config)
    (rest : List UInt8) :
    decode (octets config ++ rest) =
      .ok {
        config := withoutAddresses config
        stats := List.replicate config.peers.length {} } := by
  let count := UInt32.ofNat config.peers.length
  have counted : count.toNat = config.peers.length :=
    UInt32.toNat_ofNat_of_lt' fit.peers
  have width :
      (interfaceRecord config.interface count).toOctets.length = 80 :=
    InterfaceRecord.length_toOctets _
  have taken := takeRecord_append width
    (config.peers.flatMap peerOctets ++ rest)
  have record : InterfaceRecord.ofOctets
      ⟨(interfaceRecord config.interface count).toOctets, width⟩ =
        interfaceRecord config.interface count :=
    InterfaceRecord.ofOctets_eq rfl
  have peers : readPeers
      (interfaceRecord config.interface count).peerCount.toNat
      (config.peers.flatMap peerOctets ++ rest) =
        .ok (config.peers.map fun peer => (peer, {}), rest) := by
    rw [show (interfaceRecord config.interface count).peerCount = count
      from rfl, counted]
    exact readPeers_append fit.allowedIps rest
  rw [octets, List.append_assoc, decode, taken]
  simp only [bind, Except.bind, record, peers,
    readInterface_interfaceRecord]
  simp [pure, Except.pure, withoutAddresses, Function.comp_def,
    List.map_const']

/--
A configuration whose counts fit compiles to an image of the announced size,
and the image reads back as the configuration without its addresses and with
nothing counted for any peer.
-/
theorem decode_compile (config : Config) (fit : CountsFit config) :
    ∃ image, compile config = .ok image ∧
      image.length = requiredSize config ∧
      decode image =
        .ok {
          config := withoutAddresses config
          stats := List.replicate config.peers.length {} } := by
  have read := decode_octets_append fit []
  rw [List.append_nil] at read
  exact ⟨octets config, compile_of_fit fit, length_octets config, read⟩

/--
Two peers: one in the scope of a link, with networks of both families, and one
of which nothing is known.
-/
def twoPeers : Config where
  interface :=
    { listenPort := some 0
      addresses := [Prefix.everything .ipv6] }
  peers :=
    [ { publicKey := some ⟨Octets.zero 32⟩
        endpoint := some (.ipv6 (Octets.zero 16) 51820 7 5)
        allowedIps := [Prefix.everything .ipv4, Prefix.everything .ipv6] },
      {} ]

theorem countsFit_twoPeers : CountsFit twoPeers :=
  ⟨by decide, by decide⟩

theorem decode_compile_twoPeers :
    CountsFit twoPeers ∧
      ∃ image, compile twoPeers = .ok image ∧
        image.length = requiredSize twoPeers ∧
        decode image =
          .ok {
            config := withoutAddresses twoPeers
            stats := List.replicate 2 {} } :=
  ⟨countsFit_twoPeers, decode_compile twoPeers countsFit_twoPeers⟩

end Tunnel.Image
