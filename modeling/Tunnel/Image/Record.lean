import Tunnel.Address.Basic
import Tunnel.Error.Basic
import Tunnel.Key.Basic

/-!
# Records of the driver's image

The driver takes and gives a configuration as an image: an interface record
of 80 octets, then for each peer a record of 136 octets and its allowed
networks with 24 octets each.  Words are little-endian except the port of an
endpoint and the flow label, which are big-endian.  Each record is written
field by field with its gaps spelled out, and read by the offsets of its
fields.
-/

namespace Tunnel.Image

/-! ## Words -/

def word16 (value : UInt16) : List UInt8 := littleEndian 2 value.toNat

def word32 (value : UInt32) : List UInt8 := littleEndian 4 value.toNat

def word64 (value : UInt64) : List UInt8 := littleEndian 8 value.toNat

def port16 (value : UInt16) : List UInt8 := bigEndian 2 value.toNat

def flow32 (value : UInt32) : List UInt8 := bigEndian 4 value.toNat

def readWord16 (octets : Octets 2) : UInt16 :=
  UInt16.ofNat (littleEndianValue octets.toList)

def readWord32 (octets : Octets 4) : UInt32 :=
  UInt32.ofNat (littleEndianValue octets.toList)

def readWord64 (octets : Octets 8) : UInt64 :=
  UInt64.ofNat (littleEndianValue octets.toList)

def readPort16 (octets : Octets 2) : UInt16 :=
  UInt16.ofNat (bigEndianValue octets.toList)

def readFlow32 (octets : Octets 4) : UInt32 :=
  UInt32.ofNat (bigEndianValue octets.toList)

/-- Zeros between two fields. -/
def gap (width : Nat) : List UInt8 := List.replicate width 0

/-! ## Flags -/

namespace InterfaceFlag

def hasPublicKey : UInt32 := 1
def hasPrivateKey : UInt32 := 2
def hasListenPort : UInt32 := 4
def replacePeers : UInt32 := 8

end InterfaceFlag

namespace PeerFlag

def hasPublicKey : UInt32 := 1
def hasPresharedKey : UInt32 := 2
def hasPersistentKeepalive : UInt32 := 4
def hasEndpoint : UInt32 := 8
def replaceAllowedIps : UInt32 := 32
def remove : UInt32 := 64
def update : UInt32 := 128

end PeerFlag

/-- The flag when a field is there, and no flag otherwise. -/
def flagIf {α : Type} (field : Option α) (flag : UInt32) : UInt32 :=
  if field.isSome then flag else 0

/-- A flag of a record is set. -/
def isSet (flags flag : UInt32) : Bool := flags &&& flag ≠ 0

/-! ## Address families -/

/-- The number of a family in the driver's records. -/
def familyNumber : Family → UInt16
  | .ipv4 => 2
  | .ipv6 => 23

/-- The family of a number in the driver's records. -/
def family? (number : UInt16) : Option Family :=
  if number = 2 then some .ipv4
  else if number = 23 then some .ipv6
  else none

@[simp]
theorem family?_familyNumber (family : Family) :
    family? (familyNumber family) = some family := by
  cases family <;> rfl

/-! ## Interface record -/

/-- The record that opens an image. -/
structure InterfaceRecord where
  flags : UInt32
  listenPort : UInt16
  privateKey : Key
  publicKey : Key
  peerCount : UInt32

namespace InterfaceRecord

def size : Nat := 80

def toOctets (record : InterfaceRecord) : List UInt8 :=
  word32 record.flags ++ word16 record.listenPort ++
    record.privateKey.octets.toList ++ record.publicKey.octets.toList ++
    gap 2 ++ word32 record.peerCount ++ gap 4

def ofOctets (octets : Octets 80) : InterfaceRecord where
  flags := readWord32 (octets.slice 0 4)
  listenPort := readWord16 (octets.slice 4 2)
  privateKey := ⟨octets.slice 6 32⟩
  publicKey := ⟨octets.slice 38 32⟩
  peerCount := readWord32 (octets.slice 72 4)

theorem length_toOctets (record : InterfaceRecord) :
    record.toOctets.length = size := by
  simp [toOctets, size, word32, word16, gap, Octets.length_toList]

end InterfaceRecord

/-! ## Endpoints -/

/-- The 28 octets of an endpoint. -/
def endpointOctets : Endpoint → List UInt8
  | .ipv4 address port =>
      word16 (familyNumber .ipv4) ++ port16 port ++ address.toList ++ gap 20
  | .ipv6 address port flow scope =>
      word16 (familyNumber .ipv6) ++ port16 port ++ flow32 flow ++
        address.toList ++ word32 scope

/-- The endpoint in 28 octets. -/
def readEndpoint (octets : Octets 28) : Except Error Endpoint :=
  let number := readWord16 (octets.slice 0 2)
  let port := readPort16 (octets.slice 2 2)
  match family? number with
  | some .ipv4 => .ok (.ipv4 (octets.slice 4 4) port)
  | some .ipv6 =>
      .ok (.ipv6 (octets.slice 8 16) port (readFlow32 (octets.slice 4 4))
        (readWord32 (octets.slice 24 4)))
  | none =>
      .error (.invalidMessage
        s!"unknown endpoint address family {number.toNat}")

theorem length_endpointOctets (endpoint : Endpoint) :
    (endpointOctets endpoint).length = 28 := by
  cases endpoint <;>
    simp [endpointOctets, word16, word32, port16, flow32, gap,
      Octets.length_toList]

/-! ## Peer record -/

/-- What the driver counts for a peer. -/
structure PeerStats where
  sent : UInt64 := 0
  received : UInt64 := 0
  /-- Units of 100 ns since the year 1601; zero before the first handshake. -/
  lastHandshake : UInt64 := 0
deriving DecidableEq

/-- The record of a peer. -/
structure PeerRecord where
  flags : UInt32
  publicKey : Key
  presharedKey : Key
  persistentKeepalive : UInt16
  /-- The endpoint as it stands in the image; it need not be one. -/
  endpoint : Octets 28
  stats : PeerStats
  allowedIpCount : UInt32

namespace PeerRecord

def size : Nat := 136

def toOctets (record : PeerRecord) : List UInt8 :=
  word32 record.flags ++ gap 4 ++ record.publicKey.octets.toList ++
    record.presharedKey.octets.toList ++
    word16 record.persistentKeepalive ++ gap 2 ++ record.endpoint.toList ++
    word64 record.stats.sent ++ word64 record.stats.received ++
    word64 record.stats.lastHandshake ++ word32 record.allowedIpCount ++
    gap 4

def ofOctets (octets : Octets 136) : PeerRecord where
  flags := readWord32 (octets.slice 0 4)
  publicKey := ⟨octets.slice 8 32⟩
  presharedKey := ⟨octets.slice 40 32⟩
  persistentKeepalive := readWord16 (octets.slice 72 2)
  endpoint := octets.slice 76 28
  stats :=
    { sent := readWord64 (octets.slice 104 8)
      received := readWord64 (octets.slice 112 8)
      lastHandshake := readWord64 (octets.slice 120 8) }
  allowedIpCount := readWord32 (octets.slice 128 4)

theorem length_toOctets (record : PeerRecord) :
    record.toOctets.length = size := by
  simp [toOctets, size, word16, word32, word64, gap, Octets.length_toList]

end PeerRecord

/-! ## Network record -/

/-- The 24 octets of an allowed network; any octet may stand as length. -/
def networkOctets (address : IpAddress) (length : UInt8) : List UInt8 :=
  address.toList ++ gap (16 - address.toList.length) ++
    word16 (familyNumber address.family) ++ [length] ++ gap 5

/-- The size of an allowed network's record. -/
def networkSize : Nat := 24

/-- The address and the length in 24 octets. -/
def readNetwork (octets : Octets 24) : Except Error (IpAddress × UInt8) :=
  let number := readWord16 (octets.slice 16 2)
  let length := UInt8.ofNat (littleEndianValue (octets.slice 18 1).toList)
  match family? number with
  | some .ipv4 => .ok (.ipv4 (octets.slice 0 4), length)
  | some .ipv6 => .ok (.ipv6 (octets.slice 0 16), length)
  | none =>
      .error (.invalidMessage
        s!"unknown allowed IP address family {number.toNat}")

theorem length_networkOctets (address : IpAddress) (length : UInt8) :
    (networkOctets address length).length = networkSize := by
  cases address <;>
    simp [networkOctets, networkSize, IpAddress.toList, word16, gap,
      Octets.length_toList]

end Tunnel.Image
