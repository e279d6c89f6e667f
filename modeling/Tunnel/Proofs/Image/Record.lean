import Tunnel.Image.Record
import Tunnel.Proofs.Octets

/-!
# Records read back

A word is read from exactly the octets that it is written with.  Hence every
record that was written is read back: the interface and peer records field by
field, an endpoint and an allowed network in either family.
-/

namespace Tunnel.Image

/-! ## Words -/

theorem readWord16_eq_iff {octets : Octets 2} {value : UInt16} :
    readWord16 octets = value ↔ octets.toList = word16 value := by
  rw [word16, ← octets.littleEndianValue_eq_iff value.toNat_lt,
    readWord16, ← UInt16.toNat_inj,
    UInt16.toNat_ofNat_of_lt' octets.littleEndianValue_lt]

theorem readWord32_eq_iff {octets : Octets 4} {value : UInt32} :
    readWord32 octets = value ↔ octets.toList = word32 value := by
  rw [word32, ← octets.littleEndianValue_eq_iff value.toNat_lt,
    readWord32, ← UInt32.toNat_inj,
    UInt32.toNat_ofNat_of_lt' octets.littleEndianValue_lt]

theorem readWord64_eq_iff {octets : Octets 8} {value : UInt64} :
    readWord64 octets = value ↔ octets.toList = word64 value := by
  rw [word64, ← octets.littleEndianValue_eq_iff value.toNat_lt,
    readWord64, ← UInt64.toNat_inj,
    UInt64.toNat_ofNat_of_lt' octets.littleEndianValue_lt]

theorem readPort16_eq_iff {octets : Octets 2} {value : UInt16} :
    readPort16 octets = value ↔ octets.toList = port16 value := by
  rw [port16, ← octets.bigEndianValue_eq_iff value.toNat_lt,
    readPort16, ← UInt16.toNat_inj,
    UInt16.toNat_ofNat_of_lt' octets.bigEndianValue_lt]

theorem readFlow32_eq_iff {octets : Octets 4} {value : UInt32} :
    readFlow32 octets = value ↔ octets.toList = flow32 value := by
  rw [flow32, ← octets.bigEndianValue_eq_iff value.toNat_lt,
    readFlow32, ← UInt32.toNat_inj,
    UInt32.toNat_ofNat_of_lt' octets.bigEndianValue_lt]

/-! ## Widths -/

@[simp]
theorem length_word16 (value : UInt16) : (word16 value).length = 2 :=
  length_littleEndian 2 _

@[simp]
theorem length_word32 (value : UInt32) : (word32 value).length = 4 :=
  length_littleEndian 4 _

@[simp]
theorem length_word64 (value : UInt64) : (word64 value).length = 8 :=
  length_littleEndian 8 _

@[simp]
theorem length_port16 (value : UInt16) : (port16 value).length = 2 :=
  length_bigEndian 2 _

@[simp]
theorem length_flow32 (value : UInt32) : (flow32 value).length = 4 :=
  length_bigEndian 4 _

@[simp]
theorem length_gap (width : Nat) : (gap width).length = width :=
  List.length_replicate

@[simp]
theorem gap_zero : gap 0 = [] := rfl

attribute [simp] Octets.length_toList

/-! ## Interface record -/

namespace InterfaceRecord

/-- A written interface record is read back. -/
theorem ofOctets_eq {octets : Octets 80} {record : InterfaceRecord}
    (written : octets.toList = record.toOctets) :
    ofOctets octets = record := by
  have flags : readWord32 (octets.slice 0 4) = record.flags := by
    rw [readWord32_eq_iff]
    simp [Octets.slice, written, toOctets]
  have listenPort : readWord16 (octets.slice 4 2) = record.listenPort := by
    rw [readWord16_eq_iff]
    simp [Octets.slice, written, toOctets]
  have privateKey : octets.slice 6 32 = record.privateKey.octets := by
    apply Octets.ext
    simp [Octets.slice, written, toOctets, List.drop_append,
      List.drop_of_length_le]
  have publicKey : octets.slice 38 32 = record.publicKey.octets := by
    apply Octets.ext
    simp [Octets.slice, written, toOctets, List.drop_append,
      List.drop_of_length_le]
  have peerCount : readWord32 (octets.slice 72 4) = record.peerCount := by
    rw [readWord32_eq_iff]
    simp [Octets.slice, written, toOctets, List.drop_append,
      List.drop_of_length_le]
  simp only [ofOctets, flags, listenPort, privateKey, publicKey, peerCount]

end InterfaceRecord

/-! ## Endpoints -/

/-- A written endpoint is read back. -/
theorem readEndpoint_eq {octets : Octets 28} {endpoint : Endpoint}
    (written : octets.toList = endpointOctets endpoint) :
    readEndpoint octets = .ok endpoint := by
  cases endpoint with
  | ipv4 address port =>
      have number : readWord16 (octets.slice 0 2) = familyNumber .ipv4 := by
        rw [readWord16_eq_iff]
        simp [Octets.slice, written, endpointOctets]
      have portField : readPort16 (octets.slice 2 2) = port := by
        rw [readPort16_eq_iff]
        simp [Octets.slice, written, endpointOctets]
      have addressField : octets.slice 4 4 = address := by
        apply Octets.ext
        simp [Octets.slice, written, endpointOctets, List.drop_append,
          List.drop_of_length_le]
      simp only [readEndpoint, number, portField, addressField,
        family?_familyNumber]
  | ipv6 address port flow scope =>
      have number : readWord16 (octets.slice 0 2) = familyNumber .ipv6 := by
        rw [readWord16_eq_iff]
        simp [Octets.slice, written, endpointOctets]
      have portField : readPort16 (octets.slice 2 2) = port := by
        rw [readPort16_eq_iff]
        simp [Octets.slice, written, endpointOctets]
      have flowField : readFlow32 (octets.slice 4 4) = flow := by
        rw [readFlow32_eq_iff]
        simp [Octets.slice, written, endpointOctets, List.drop_append,
          List.drop_of_length_le]
      have addressField : octets.slice 8 16 = address := by
        apply Octets.ext
        simp [Octets.slice, written, endpointOctets, List.drop_append,
          List.drop_of_length_le]
      have scopeField : readWord32 (octets.slice 24 4) = scope := by
        rw [readWord32_eq_iff]
        simp [Octets.slice, written, endpointOctets, List.drop_append,
          List.drop_of_length_le, List.take_of_length_le]
      simp only [readEndpoint, number, portField, flowField, addressField,
        scopeField, family?_familyNumber]

/-! ## Peer record -/

namespace PeerRecord

/-- A written peer record is read back. -/
theorem ofOctets_eq {octets : Octets 136} {record : PeerRecord}
    (written : octets.toList = record.toOctets) :
    ofOctets octets = record := by
  have flags : readWord32 (octets.slice 0 4) = record.flags := by
    rw [readWord32_eq_iff]
    simp [Octets.slice, written, toOctets]
  have publicKey : octets.slice 8 32 = record.publicKey.octets := by
    apply Octets.ext
    simp [Octets.slice, written, toOctets, List.drop_append,
      List.drop_of_length_le]
  have presharedKey : octets.slice 40 32 = record.presharedKey.octets := by
    apply Octets.ext
    simp [Octets.slice, written, toOctets, List.drop_append,
      List.drop_of_length_le]
  have persistentKeepalive :
      readWord16 (octets.slice 72 2) = record.persistentKeepalive := by
    rw [readWord16_eq_iff]
    simp [Octets.slice, written, toOctets, List.drop_append,
      List.drop_of_length_le]
  have endpoint : octets.slice 76 28 = record.endpoint := by
    apply Octets.ext
    simp [Octets.slice, written, toOctets, List.drop_append,
      List.drop_of_length_le]
  have sent : readWord64 (octets.slice 104 8) = record.stats.sent := by
    rw [readWord64_eq_iff]
    simp [Octets.slice, written, toOctets, List.drop_append,
      List.drop_of_length_le]
  have received :
      readWord64 (octets.slice 112 8) = record.stats.received := by
    rw [readWord64_eq_iff]
    simp [Octets.slice, written, toOctets, List.drop_append,
      List.drop_of_length_le]
  have lastHandshake :
      readWord64 (octets.slice 120 8) = record.stats.lastHandshake := by
    rw [readWord64_eq_iff]
    simp [Octets.slice, written, toOctets, List.drop_append,
      List.drop_of_length_le]
  have allowedIpCount :
      readWord32 (octets.slice 128 4) = record.allowedIpCount := by
    rw [readWord32_eq_iff]
    simp [Octets.slice, written, toOctets, List.drop_append,
      List.drop_of_length_le]
  simp only [ofOctets, flags, publicKey, presharedKey,
    persistentKeepalive, endpoint, sent, received, lastHandshake,
    allowedIpCount]

end PeerRecord

/-! ## Network record -/

/-- A written network record is read back. -/
theorem readNetwork_eq {octets : Octets 24} {address : IpAddress}
    {length : UInt8}
    (written : octets.toList = networkOctets address length) :
    readNetwork octets = .ok (address, length) := by
  cases address with
  | ipv4 address =>
      have number : readWord16 (octets.slice 16 2) = familyNumber .ipv4 := by
        rw [readWord16_eq_iff]
        simp [Octets.slice, written, networkOctets, IpAddress.toList,
          IpAddress.family, List.drop_append, List.drop_of_length_le]
      have lengthField : (octets.slice 18 1).toList = [length] := by
        simp [Octets.slice, written, networkOctets, IpAddress.toList,
          List.drop_append, List.drop_of_length_le]
      have addressField : octets.slice 0 4 = address := by
        apply Octets.ext
        simp [Octets.slice, written, networkOctets, IpAddress.toList]
      simp [readNetwork, number, lengthField, addressField,
        littleEndianValue]
  | ipv6 address =>
      have number : readWord16 (octets.slice 16 2) = familyNumber .ipv6 := by
        rw [readWord16_eq_iff]
        simp [Octets.slice, written, networkOctets, IpAddress.toList,
          IpAddress.family]
      have lengthField : (octets.slice 18 1).toList = [length] := by
        simp [Octets.slice, written, networkOctets, IpAddress.toList,
          List.drop_append, List.drop_of_length_le]
      have addressField : octets.slice 0 16 = address := by
        apply Octets.ext
        simp [Octets.slice, written, networkOctets, IpAddress.toList]
      simp [readNetwork, number, lengthField, addressField,
        littleEndianValue]

end Tunnel.Image
