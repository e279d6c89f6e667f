import Tunnel.Proofs.Image.RoundTrip
import Tunnel.Proofs.Outcome

/-!
# The normal form of an image

A driver may leave unknown bits in the flags, octets in absent fields, and
stale octets behind an IPv4 address.  The normal form of an image keeps what is
read and fixes everything else, record by record and octet by octet.  The main
theorem says that writing what was read gives the normal form of the octets
that were read, so that images with one normal form describe one
configuration.
-/

namespace Tunnel.Image

/-! ## Normal records -/

/-- The octets of a record that stand from an offset on. -/
def stretch {size : Nat} (record : Octets size) (offset width : Nat) :
    List UInt8 :=
  (record.toList.drop offset).take width

/-- The octets of a field whose flag is set, and zeros otherwise. -/
def fieldOrZero {size : Nat} (record : Octets size) (flags flag : UInt32)
    (offset width : Nat) : List UInt8 :=
  if isSet flags flag then stretch record offset width else gap width

/-- An interface record with known flags, present fields and no padding. -/
def normalInterface (record : Octets 80) : List UInt8 :=
  let flags := (InterfaceRecord.ofOctets record).flags
  word32 (flags &&& 7 ||| InterfaceFlag.replacePeers) ++
    fieldOrZero record flags InterfaceFlag.hasListenPort 4 2 ++
    fieldOrZero record flags InterfaceFlag.hasPrivateKey 6 32 ++
    fieldOrZero record flags InterfaceFlag.hasPublicKey 38 32 ++
    gap 2 ++ stretch record 72 4 ++ gap 4

/-- An endpoint without what stands behind an IPv4 address. -/
def normalEndpoint (endpoint : Octets 28) : List UInt8 :=
  if stretch endpoint 0 2 = word16 (familyNumber .ipv4) then
    stretch endpoint 0 8 ++ gap 20
  else endpoint.toList

/--
A peer record with known flags, present fields, no padding and no counters.
-/
def normalPeer (record : Octets 136) : List UInt8 :=
  let flags := (PeerRecord.ofOctets record).flags
  word32 (flags &&& 15 ||| PeerFlag.replaceAllowedIps) ++ gap 4 ++
    fieldOrZero record flags PeerFlag.hasPublicKey 8 32 ++
    fieldOrZero record flags PeerFlag.hasPresharedKey 40 32 ++
    fieldOrZero record flags PeerFlag.hasPersistentKeepalive 72 2 ++
    gap 2 ++
    (if isSet flags PeerFlag.hasEndpoint then
      normalEndpoint (PeerRecord.ofOctets record).endpoint
    else gap 28) ++
    gap 24 ++ stretch record 128 4 ++ gap 4

/-- A network record without padding and what stands behind IPv4. -/
def normalNetwork (record : Octets 24) : List UInt8 :=
  (if stretch record 16 2 = word16 (familyNumber .ipv4) then
    stretch record 0 4 ++ gap 12
  else stretch record 0 16) ++
    stretch record 16 3 ++ gap 5

/-! ## Normal images -/

/-- Some count of network records in normal form, and what follows them. -/
def normalNetworks : (count : Nat) → List UInt8 →
    Option (List UInt8 × List UInt8)
  | 0, rest => some ([], rest)
  | count + 1, rest => do
      let record ← Octets.take? 24 rest
      let (networks, rest) ← normalNetworks count (rest.drop 24)
      return (normalNetwork record ++ networks, rest)

/-- Some count of peers in normal form, and what follows them. -/
def normalPeers : (count : Nat) → List UInt8 →
    Option (List UInt8 × List UInt8)
  | 0, rest => some ([], rest)
  | count + 1, rest => do
      let record ← Octets.take? 136 rest
      let (networks, rest) ←
        normalNetworks (PeerRecord.ofOctets record).allowedIpCount.toNat
          (rest.drop 136)
      let (peers, rest) ← normalPeers count rest
      return (normalPeer record ++ networks ++ peers, rest)

/--
The normal form of the records that an image counts, or nothing if the image
ends before them.
-/
def normalForm (image : List UInt8) : Option (List UInt8) := do
  let record ← Octets.take? 80 image
  let (peers, _) ←
    normalPeers (InterfaceRecord.ofOctets record).peerCount.toNat
      (image.drop 80)
  return normalInterface record ++ peers

/-! ## What was read writes back: fields -/

theorem word16_readWord16 (octets : Octets 2) :
    word16 (readWord16 octets) = octets.toList :=
  (readWord16_eq_iff.1 rfl).symm

theorem word32_readWord32 (octets : Octets 4) :
    word32 (readWord32 octets) = octets.toList :=
  (readWord32_eq_iff.1 rfl).symm

theorem port16_readPort16 (octets : Octets 2) :
    port16 (readPort16 octets) = octets.toList :=
  (readPort16_eq_iff.1 rfl).symm

theorem flow32_readFlow32 (octets : Octets 4) :
    flow32 (readFlow32 octets) = octets.toList :=
  (readFlow32_eq_iff.1 rfl).symm

/-- A field has the octets that stand where it is read. -/
theorem toList_slice {size : Nat} (record : Octets size)
    (offset width : Nat) (inside : offset + width ≤ size) :
    (record.slice offset width inside).toList =
      stretch record offset width :=
  rfl

section Fields

variable {size : Nat} (record : Octets size) (flags flag : UInt32)
  (offset : Nat)

theorem keyOrZero_fieldIf (inside : offset + 32 ≤ size) :
    (keyOrZero (fieldIf flags flag
      ⟨record.slice offset 32 inside⟩)).octets.toList =
        fieldOrZero record flags flag offset 32 := by
  unfold fieldIf fieldOrZero
  split <;> rfl

theorem word16_fieldIf (inside : offset + 2 ≤ size) :
    word16 ((fieldIf flags flag
      (readWord16 (record.slice offset 2 inside))).getD 0) =
        fieldOrZero record flags flag offset 2 := by
  unfold fieldIf fieldOrZero
  split
  · exact word16_readWord16 (record.slice offset 2 inside)
  · rfl

end Fields

theorem family?_eq_some_iff {number : UInt16} {family : Family} :
    family? number = some family ↔ number = familyNumber family := by
  constructor
  · intro found
    unfold family? at found
    split at found
    · next same =>
        cases found
        exact same
    · split at found
      · next same =>
          cases found
          exact same
      · cases found
  · rintro rfl
    exact family?_familyNumber family

/-! ## What was read writes back: records -/

theorem endpointOctets_of_read {octets : Octets 28} {endpoint : Endpoint}
    (read : readEndpoint octets = .ok endpoint) :
    endpointOctets endpoint = normalEndpoint octets := by
  have head : (octets.slice 0 2).toList ++ (octets.slice 2 2).toList =
      (octets.slice 0 4).toList :=
    octets.toList_slice_append _ _ _
  cases found : family? (readWord16 (octets.slice 0 2)) with
  | none => simp [readEndpoint, found] at read
  | some family =>
      have number := family?_eq_some_iff.1 found
      cases family with
      | ipv4 =>
          have isFour : stretch octets 0 2 = word16 (familyNumber .ipv4) :=
            readWord16_eq_iff.1 number
          have front : (octets.slice 0 4).toList ++
              (octets.slice 4 4).toList = stretch octets 0 8 :=
            octets.toList_slice_append (by decide) (by decide) (by decide)
          simp only [readEndpoint, found] at read
          cases read
          rw [normalEndpoint, if_pos isFour, endpointOctets, ← number,
            word16_readWord16, port16_readPort16, head, front]
      | ipv6 =>
          have isSix : stretch octets 0 2 = word16 (familyNumber .ipv6) :=
            readWord16_eq_iff.1 number
          have other : stretch octets 0 2 ≠ word16 (familyNumber .ipv4) := by
            rw [isSix]
            decide
          have flow : (octets.slice 0 4).toList ++
              (octets.slice 4 4).toList = (octets.slice 0 8).toList :=
            octets.toList_slice_append _ _ _
          have address : (octets.slice 0 8).toList ++
              (octets.slice 8 16).toList = (octets.slice 0 24).toList :=
            octets.toList_slice_append _ _ _
          have scope : (octets.slice 0 24).toList ++
              (octets.slice 24 4).toList = (octets.slice 0 28).toList :=
            octets.toList_slice_append _ _ _
          simp only [readEndpoint, found] at read
          cases read
          rw [normalEndpoint, if_neg other, endpointOctets, ← number,
            word16_readWord16, port16_readPort16, flow32_readFlow32,
            word32_readWord32, head, flow, address, scope,
            octets.toList_slice_whole]

/-- The octet that spells a number of one octet. -/
theorem ofNat_littleEndianValue (octet : Octets 1) :
    [UInt8.ofNat (littleEndianValue octet.toList)] = octet.toList := by
  have back := littleEndian_littleEndianValue octet.toList
  rw [octet.length_toList] at back
  exact back

theorem networkOctets_of_read {octets : Octets 24} {address : IpAddress}
    {length : UInt8} (read : readNetwork octets = .ok (address, length)) :
    networkOctets address length = normalNetwork octets := by
  have tail : (octets.slice 16 2).toList ++ (octets.slice 18 1).toList =
      stretch octets 16 3 :=
    octets.toList_slice_append (by decide) (by decide) (by decide)
  cases found : family? (readWord16 (octets.slice 16 2)) with
  | none => simp [readNetwork, found] at read
  | some family =>
      have number := family?_eq_some_iff.1 found
      have written := word16_readWord16 (octets.slice 16 2)
      rw [number] at written
      have ownFamily : stretch octets 16 2 = word16 (familyNumber family) :=
        written.symm
      cases family with
      | ipv4 =>
          simp only [readNetwork, found] at read
          cases read
          rw [normalNetwork, if_pos ownFamily, networkOctets,
            ofNat_littleEndianValue, IpAddress.family, written,
            List.append_assoc _ _ (octets.slice 18 1).toList, tail,
            ← toList_slice octets 0 4 (by decide)]
          simp [IpAddress.toList]
      | ipv6 =>
          have other : stretch octets 16 2 ≠ word16 (familyNumber .ipv4) := by
            rw [ownFamily]
            decide
          simp only [readNetwork, found] at read
          cases read
          rw [normalNetwork, if_neg other, networkOctets,
            ofNat_littleEndianValue, IpAddress.family, written,
            List.append_assoc _ _ (octets.slice 18 1).toList, tail,
            ← toList_slice octets 0 16 (by decide)]
          simp [IpAddress.toList]

theorem networkRecord_of_read {octets : Octets 24} {network : Prefix}
    (read : networkOf octets = .ok network) :
    networkRecord network = normalNetwork octets := by
  cases inner : readNetwork octets with
  | error error => simp [networkOf, inner] at read
  | ok pair =>
      obtain ⟨address, length⟩ := pair
      simp only [networkOf, inner, mapError_eq_ok_iff,
        Prefix.make_eq_ok_iff] at read
      obtain ⟨sameAddress, sameLength⟩ := read
      rw [networkRecord, sameAddress, sameLength, UInt8.ofNat_toNat]
      exact networkOctets_of_read inner

theorem interfaceFlags_of_read (record : InterfaceRecord) (count : UInt32) :
    (interfaceRecord (readInterface record) count).flags =
      record.flags &&& 7 ||| InterfaceFlag.replacePeers := by
  have known : (7 : UInt32) = InterfaceFlag.hasPrivateKey |||
      InterfaceFlag.hasPublicKey ||| InterfaceFlag.hasListenPort := by
    decide
  have privateKey : InterfaceFlag.hasPrivateKey.toNat = 2 ^ 1 := rfl
  have publicKey : InterfaceFlag.hasPublicKey.toNat = 2 ^ 0 := rfl
  have listenPort : InterfaceFlag.hasListenPort.toNat = 2 ^ 2 := rfl
  simp only [interfaceRecord, readInterface, flagIf_fieldIf privateKey,
    flagIf_fieldIf publicKey, flagIf_fieldIf listenPort, known,
    and_or_distrib]
  ac_rfl

theorem interfaceRecord_of_read (octets : Octets 80) :
    (interfaceRecord (readInterface (InterfaceRecord.ofOctets octets))
      (InterfaceRecord.ofOctets octets).peerCount).toOctets =
        normalInterface octets := by
  rw [InterfaceRecord.toOctets, interfaceFlags_of_read, normalInterface]
  simp only [interfaceRecord, readInterface, InterfaceRecord.ofOctets,
    keyOrZero_fieldIf, word16_fieldIf, word32_readWord32, toList_slice]

theorem peerFlags_of_read {record : PeerRecord}
    {endpoint : Option Endpoint} {networks : List Prefix}
    (present : endpoint.isSome = isSet record.flags PeerFlag.hasEndpoint)
    (count : UInt32) :
    (peerRecord (readPeer record endpoint networks) count).flags =
      record.flags &&& 15 ||| PeerFlag.replaceAllowedIps := by
  have known : (15 : UInt32) = PeerFlag.hasPublicKey |||
      PeerFlag.hasPresharedKey ||| PeerFlag.hasPersistentKeepalive |||
      PeerFlag.hasEndpoint := by
    decide
  have publicKey : PeerFlag.hasPublicKey.toNat = 2 ^ 0 := rfl
  have presharedKey : PeerFlag.hasPresharedKey.toNat = 2 ^ 1 := rfl
  have persistentKeepalive :
      PeerFlag.hasPersistentKeepalive.toNat = 2 ^ 2 := rfl
  have endpointBit : PeerFlag.hasEndpoint.toNat = 2 ^ 3 := rfl
  have endpointFlag : flagIf endpoint PeerFlag.hasEndpoint =
      record.flags &&& PeerFlag.hasEndpoint := by
    rw [and_eq_of_bit endpointBit, flagIf, present]
  simp only [peerRecord, readPeer, flagIf_fieldIf publicKey,
    flagIf_fieldIf presharedKey, flagIf_fieldIf persistentKeepalive,
    endpointFlag, known, and_or_distrib]
  ac_rfl

/-- The endpoint that was read under its flag, in normal form. -/
theorem endpointOrZero_of_read {record : PeerRecord}
    {endpoint : Option Endpoint}
    (read : readPeerEndpoint record = .ok endpoint) :
    endpoint.isSome = isSet record.flags PeerFlag.hasEndpoint ∧
      (endpointOrZero endpoint).toList =
        if isSet record.flags PeerFlag.hasEndpoint then
          normalEndpoint record.endpoint
        else gap 28 := by
  unfold readPeerEndpoint at read
  split at read
  · next present =>
      obtain ⟨inner, innerRead, rfl⟩ := map_eq_ok_iff.1 read
      simp only [present]
      exact ⟨rfl, endpointOctets_of_read innerRead⟩
  · next absent =>
      cases read
      simp only [absent]
      exact ⟨rfl, rfl⟩

theorem peerRecord_of_read {octets : Octets 136}
    {endpoint : Option Endpoint} (networks : List Prefix)
    (read : readPeerEndpoint (PeerRecord.ofOctets octets) = .ok endpoint) :
    (peerRecord (readPeer (PeerRecord.ofOctets octets) endpoint networks)
      (PeerRecord.ofOctets octets).allowedIpCount).toOctets =
        normalPeer octets := by
  obtain ⟨present, written⟩ := endpointOrZero_of_read read
  have counters : word64 0 ++ (word64 0 ++ (word64 0 : List UInt8)) =
      gap 24 := by
    decide
  rw [PeerRecord.toOctets, peerFlags_of_read present, normalPeer]
  simp only [peerRecord, readPeer, written]
  simp only [PeerRecord.ofOctets, keyOrZero_fieldIf, word16_fieldIf,
    word32_readWord32, toList_slice, ← counters, List.append_assoc]

/-! ## What was read writes back: images -/

theorem takeRecord_eq_ok {size : Nat} {record : Octets size}
    {rest left : List UInt8}
    (taken : takeRecord size rest = .ok (record, left)) :
    rest = record.toList ++ left := by
  unfold takeRecord at taken
  split at taken
  · cases taken
  · next found =>
      cases taken
      exact Octets.take?_eq_some_iff.1 found

/--
Networks that were read are the normal form of the octets that were taken,
whatever follows them.
-/
theorem normalNetworks_of_read {count : Nat} {rest left : List UInt8}
    {networks : List Prefix}
    (read : readNetworks count rest = .ok (networks, left)) :
    networks.length = count ∧
      ∃ used, rest = used ++ left ∧
        used.length = networks.length * networkSize ∧
        ∀ more, normalNetworks count (used ++ more) =
          some (networks.flatMap networkRecord, more) := by
  induction count generalizing rest networks left with
  | zero =>
      cases read
      exact ⟨rfl, [], rfl, rfl, fun more => rfl⟩
  | succ count ih =>
      obtain ⟨⟨record, rest'⟩, taken, read⟩ := bind_eq_ok_iff.1 read
      obtain ⟨network, inner, read⟩ := bind_eq_ok_iff.1 read
      obtain ⟨⟨others, left'⟩, outer, read⟩ := bind_eq_ok_iff.1 read
      cases read
      obtain ⟨length, used, whole, size, normal⟩ := ih outer
      refine ⟨by simp [length], record.toList ++ used, ?_, ?_, ?_⟩
      · rw [takeRecord_eq_ok taken, whole, List.append_assoc]
      · simp [size, networkSize, Nat.succ_mul, Nat.add_comm]
      · intro more
        rw [List.append_assoc, normalNetworks, Octets.take?_append]
        simp [normal, networkRecord_of_read inner]

/--
Peers that were read are the normal form of the octets that were taken,
whatever follows them.
-/
theorem normalPeers_of_read {count : Nat} {rest left : List UInt8}
    {peers : List (Config.Peer × PeerStats)}
    (read : readPeers count rest = .ok (peers, left)) :
    peers.length = count ∧
      (∀ peer ∈ peers, peer.1.allowedIps.length < 2 ^ 32) ∧
      ∃ used, rest = used ++ left ∧
        used.length =
          (peers.flatMap fun peer => peerOctets peer.1).length ∧
        ∀ more, normalPeers count (used ++ more) =
          some (peers.flatMap fun peer => peerOctets peer.1, more) := by
  induction count generalizing rest peers left with
  | zero =>
      cases read
      exact ⟨rfl, by simp, [], rfl, rfl, fun more => rfl⟩
  | succ count ih =>
      obtain ⟨⟨octets, rest'⟩, taken, read⟩ := bind_eq_ok_iff.1 read
      obtain ⟨endpoint, endpointRead, read⟩ := bind_eq_ok_iff.1 read
      obtain ⟨⟨networks, rest''⟩, networksRead, read⟩ :=
        bind_eq_ok_iff.1 read
      obtain ⟨⟨others, left'⟩, outer, read⟩ := bind_eq_ok_iff.1 read
      cases read
      obtain ⟨networkCount, usedNetworks, networksWhole, networksSize,
        networksNormal⟩ := normalNetworks_of_read networksRead
      obtain ⟨length, fit, used, whole, size, normal⟩ := ih outer
      have small : networks.length < 2 ^ 32 := by
        rw [networkCount]
        exact UInt32.toNat_lt _
      have counted : UInt32.ofNat networks.length =
          (PeerRecord.ofOctets octets).allowedIpCount := by
        rw [networkCount, UInt32.ofNat_toNat]
      have written : peerOctets (readPeer (PeerRecord.ofOctets octets)
          endpoint networks) =
            normalPeer octets ++ networks.flatMap networkRecord := by
        simp only [peerOctets, readPeer, counted]
        rw [← peerRecord_of_read networks endpointRead]
        rfl
      refine ⟨by simp [length], ?_,
        octets.toList ++ (usedNetworks ++ used), ?_, ?_, ?_⟩
      · rintro peer (_ | ⟨_, member⟩)
        · exact small
        · exact fit peer member
      · rw [takeRecord_eq_ok taken, networksWhole, whole]
        simp only [List.append_assoc]
      · simp [networksSize, size, length_peerOctets, peerSize,
          PeerRecord.size, readPeer, Nat.add_assoc]
      · intro more
        have inner := networksNormal (used ++ more)
        rw [List.append_assoc, List.append_assoc, normalPeers,
          Octets.take?_append]
        simp [inner, normal, written]

/--
An image that was read starts with octets of the size of its configuration,
and their normal form is what the configuration compiles to.
-/
theorem normalForm_of_decode {image : List UInt8} {decoded : Decoded}
    (read : decode image = .ok decoded) :
    CountsFit decoded.config ∧
      withoutAddresses decoded.config = decoded.config ∧
      ∃ used left, image = used ++ left ∧
        used.length = requiredSize decoded.config ∧
        ∀ more, normalForm (used ++ more) = some (octets decoded.config) := by
  obtain ⟨⟨record, rest⟩, taken, read⟩ := bind_eq_ok_iff.1 read
  obtain ⟨⟨peers, left⟩, peersRead, read⟩ := bind_eq_ok_iff.1 read
  cases read
  obtain ⟨peerCount, fit, used, whole, size, normal⟩ :=
    normalPeers_of_read peersRead
  have counted : UInt32.ofNat peers.length =
      (InterfaceRecord.ofOctets record).peerCount := by
    rw [peerCount, UInt32.ofNat_toNat]
  have small : peers.length < 2 ^ 32 := by
    rw [peerCount]
    exact UInt32.toNat_lt _
  refine ⟨⟨by simpa using small, ?_⟩, rfl,
    record.toList ++ used, left, ?_, ?_, ?_⟩
  · intro peer member
    obtain ⟨entry, entryMember, rfl⟩ := List.mem_map.1 member
    exact fit entry entryMember
  · rw [takeRecord_eq_ok taken, whole, List.append_assoc]
  · rw [← length_octets, octets, List.length_append, List.length_append,
      InterfaceRecord.length_toOctets, size, List.flatMap_map,
      record.length_toList]
    rfl
  · intro more
    have inner := normal more
    rw [List.append_assoc, normalForm, Octets.take?_append, octets,
      List.length_map, counted]
    simp [inner, interfaceRecord_of_read, List.flatMap_map]

/-- Configurations without addresses that have one image are the same. -/
theorem octets_injective {left right : Config}
    (leftFit : CountsFit left) (rightFit : CountsFit right)
    (leftPlain : withoutAddresses left = left)
    (rightPlain : withoutAddresses right = right)
    (same : octets left = octets right) : left = right := by
  have leftRead := decode_octets_append leftFit []
  rw [same, decode_octets_append rightFit [], leftPlain, rightPlain]
    at leftRead
  simp only [Except.ok.injEq, Decoded.mk.injEq] at leftRead
  exact leftRead.1.symm

/--
Compiling a configuration that was read gives the normal form of the octets
that were read, which are as many as the configuration needs; and any other
image with that normal form reads as the same configuration.
-/
theorem compile_decoded {image : List UInt8} {decoded : Decoded}
    (read : decode image = .ok decoded) :
    requiredSize decoded.config ≤ image.length ∧
      (∃ normal,
        compile decoded.config = .ok normal ∧
        normalForm (image.take (requiredSize decoded.config)) =
          some normal ∧
        normalForm image = some normal) ∧
      ∀ other otherDecoded, decode other = .ok otherDecoded →
        normalForm other = normalForm image →
          otherDecoded.config = decoded.config := by
  obtain ⟨fit, plain, used, left, whole, size, normal⟩ :=
    normalForm_of_decode read
  have exactly : image.take (requiredSize decoded.config) = used := by
    rw [whole, ← size, List.take_left]
  have normalUsed := normal []
  rw [List.append_nil] at normalUsed
  have normalImage := normal left
  rw [← whole] at normalImage
  refine ⟨?_, ⟨octets decoded.config, compile_of_fit fit, ?_,
    normalImage⟩, ?_⟩
  · rw [whole, List.length_append, size]
    exact Nat.le_add_right _ _
  · rw [exactly, normalUsed]
  · intro other otherDecoded otherRead same
    obtain ⟨otherFit, otherPlain, otherUsed, otherLeft, otherWhole, -,
      otherNormal⟩ := normalForm_of_decode otherRead
    rw [otherWhole, otherNormal, normalImage] at same
    exact octets_injective otherFit fit otherPlain plain
      (Option.some.inj same)

/--
One peer with an IPv4 endpoint and one network, unknown bits in all flags and
stale octets wherever nothing is read.
-/
def staleImage : List UInt8 :=
  [0xF4, 0xFF, 0xFF, 0xFF, 0x6C, 0xCA] ++ List.replicate 66 0xAA ++
    [1, 0, 0, 0] ++ List.replicate 4 0xAA ++
    [0xF8, 0xFF, 0xFF, 0xFF] ++ List.replicate 72 0xAA ++
    [2, 0, 0xCA, 0x6C, 192, 0, 2, 1] ++ List.replicate 20 0xAA ++
    List.replicate 24 0xAA ++ [1, 0, 0, 0] ++ List.replicate 4 0xAA ++
    [10, 0, 0, 0] ++ List.replicate 12 0xAA ++ [2, 0, 8] ++
    List.replicate 6 0xAA

/-- What `staleImage` says. -/
def staleDecoded : Decoded where
  config :=
    { interface := { listenPort := some 51820 }
      peers :=
        [ { endpoint := some (.ipv4 ⟨[192, 0, 2, 1], rfl⟩ 51820)
            allowedIps := [⟨.ipv4 ⟨[10, 0, 0, 0], rfl⟩, 8, by decide⟩] } ] }
  stats :=
    [ { sent := 0xAAAAAAAAAAAAAAAA
        received := 0xAAAAAAAAAAAAAAAA
        lastHandshake := 0xAAAAAAAAAAAAAAAA } ]

theorem decode_staleImage : decode staleImage = .ok staleDecoded := by
  have same : (decode staleImage).toOption = some staleDecoded := by
    decide +kernel
  cases read : decode staleImage with
  | error error => simp [read, Except.toOption] at same
  | ok decoded =>
      rw [read] at same
      exact congrArg _ (Option.some.inj same)

theorem compile_decoded_staleImage :
    decode staleImage = .ok staleDecoded ∧
      requiredSize staleDecoded.config ≤ staleImage.length ∧
      (∃ normal,
        compile staleDecoded.config = .ok normal ∧
        normalForm (staleImage.take (requiredSize staleDecoded.config)) =
          some normal ∧
        normalForm staleImage = some normal) ∧
      ∀ other otherDecoded, decode other = .ok otherDecoded →
        normalForm other = normalForm staleImage →
          otherDecoded.config = staleDecoded.config :=
  ⟨decode_staleImage, compile_decoded decode_staleImage⟩

end Tunnel.Image
