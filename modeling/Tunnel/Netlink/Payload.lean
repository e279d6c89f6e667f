import Tunnel.Netlink.Packet
import Tunnel.Text.Utf8

/-!
# Payloads

Routing packets are about addresses, routes or links.  Each kind of payload
begins with a header of fixed size and goes on with attributes.  Of an
attribute that occurs more than once the last one counts, also when its value
cannot be read; only a route's table is kept from the header or an earlier
attribute when a later one cannot be read.
-/

namespace Tunnel.Netlink

/-- A field of one octet. -/
def octetAt (octets : List UInt8) (offset : Nat) : UInt8 :=
  octets[offset]?.getD 0

/-- A field of two octets. -/
def word16At (octets : List UInt8) (offset : Nat) : UInt16 :=
  UInt16.ofNat (wordAt 2 (octets.drop offset))

/-- A field of four octets. -/
def word32At (octets : List UInt8) (offset : Nat) : UInt32 :=
  UInt32.ofNat (wordAt 4 (octets.drop offset))

/-- What is said of a payload that is shorter than its header. -/
def shortPayload : Error :=
  .invalidMessage
    "Backtrack(ContextError \x7b context: [], cause: None \x7d)"

/-- The attributes after a header of some size. -/
def attributesAfter (size : Nat) (payload : List UInt8) :
    Except Error (List Attribute) :=
  if size ≤ payload.length then .ok (Attribute.readAll (payload.drop size))
  else .error shortPayload

/-! ## Addresses -/

/-- The header of a payload about an address. -/
structure AddressHeader where
  family : UInt8 := 0
  length : UInt8 := 0
  flags : UInt8 := 0
  scope : UInt8 := 0
  index : UInt32 := 0
deriving DecidableEq

namespace AddressHeader

def size : Nat := 8

def toOctets (header : AddressHeader) : List UInt8 :=
  [header.family, header.length, header.flags, header.scope] ++
    littleEndian 4 header.index.toNat

def ofOctets (octets : List UInt8) : AddressHeader where
  family := octetAt octets 0
  length := octetAt octets 1
  flags := octetAt octets 2
  scope := octetAt octets 3
  index := word32At octets 4

end AddressHeader

namespace AddressAttribute

def address : UInt16 := 1
def localAddress : UInt16 := 2

end AddressAttribute

/-- A payload about an address. -/
structure AddressMessage where
  header : AddressHeader
  /-- The local address, or else the address. -/
  address : Option IpAddress
deriving DecidableEq

/-- The value of the last attribute of a type, when it can be read. -/
def lastValue {α : Type} (type : UInt16) (read : List UInt8 → Option α)
    (attributes : List Attribute) : Option α :=
  (attributes.reverse.find? (·.type = type)).bind (read ·.value)

/-- Read a payload about an address. -/
def AddressMessage.read (payload : List UInt8) :
    Except Error AddressMessage := do
  let attributes ← attributesAfter AddressHeader.size payload
  let header := AddressHeader.ofOctets payload
  let address := fun (value : List UInt8) => address? value header.family
  return {
    header
    address :=
      (lastValue AddressAttribute.localAddress address attributes).or
        (lastValue AddressAttribute.address address attributes) }

/-! ## Routes -/

/-- The header of a payload about a route. -/
structure RouteHeader where
  family : UInt8 := 0
  destinationLength : UInt8 := 0
  sourceLength : UInt8 := 0
  service : UInt8 := 0
  table : UInt8 := 0
  protocol : UInt8 := 0
  scope : UInt8 := 0
  type : UInt8 := 0
  flags : UInt32 := 0
deriving DecidableEq

namespace RouteHeader

def size : Nat := 12

def toOctets (header : RouteHeader) : List UInt8 :=
  [header.family, header.destinationLength, header.sourceLength,
    header.service, header.table, header.protocol, header.scope,
    header.type] ++ littleEndian 4 header.flags.toNat

def ofOctets (octets : List UInt8) : RouteHeader where
  family := octetAt octets 0
  destinationLength := octetAt octets 1
  sourceLength := octetAt octets 2
  service := octetAt octets 3
  table := octetAt octets 4
  protocol := octetAt octets 5
  scope := octetAt octets 6
  type := octetAt octets 7
  flags := word32At octets 8

end RouteHeader

namespace RouteAttribute

def destination : UInt16 := 1
def outputInterface : UInt16 := 4
def gateway : UInt16 := 5
def priority : UInt16 := 6
def table : UInt16 := 15

end RouteAttribute

/-- A payload about a route. -/
structure RouteMessage where
  header : RouteHeader
  destination : Option IpAddress
  outputInterface : Option UInt32
  gateway : Option IpAddress
  priority : Option UInt32
  table : UInt32
deriving DecidableEq

/-- Read a payload about a route. -/
def RouteMessage.read (payload : List UInt8) :
    Except Error RouteMessage := do
  let attributes ← attributesAfter RouteHeader.size payload
  let header := RouteHeader.ofOctets payload
  let address := fun (value : List UInt8) => address? value header.family
  let tables := attributes.filterMap fun entry =>
    if entry.type = RouteAttribute.table then word32? entry.value else none
  return {
    header
    destination := lastValue RouteAttribute.destination address attributes
    outputInterface :=
      lastValue RouteAttribute.outputInterface word32? attributes
    gateway := lastValue RouteAttribute.gateway address attributes
    priority := lastValue RouteAttribute.priority word32? attributes
    table := tables.getLast?.getD header.table.toUInt32 }

/-! ## Links -/

/-- The header of a payload about a link. -/
structure LinkHeader where
  family : UInt8 := 0
  type : UInt16 := 0
  index : UInt32 := 0
  flags : UInt32 := 0
  change : UInt32 := 0
deriving DecidableEq

namespace LinkHeader

def size : Nat := 16

def toOctets (header : LinkHeader) : List UInt8 :=
  [header.family, 0] ++ littleEndian 2 header.type.toNat ++
    littleEndian 4 header.index.toNat ++ littleEndian 4 header.flags.toNat ++
    littleEndian 4 header.change.toNat

def ofOctets (octets : List UInt8) : LinkHeader where
  family := octetAt octets 0
  type := word16At octets 2
  index := word32At octets 4
  flags := word32At octets 8
  change := word32At octets 12

/-- The index as the signed number that the kernel keeps. -/
def signedIndex (header : LinkHeader) : Int :=
  Complaint.signed32 header.index.toNat

end LinkHeader

namespace LinkAttribute

def name : UInt16 := 3
def operState : UInt16 := 16

end LinkAttribute

/-- A payload about a link. -/
structure LinkMessage where
  header : LinkHeader
  name : Option (List Char)
  /-- The number of the operational status. -/
  operState : Option UInt8
deriving DecidableEq

/-- A name ends at the first zero. -/
def linkName (value : List UInt8) : List Char :=
  Text.ofUtf8 (value.takeWhile (· ≠ 0))

/-- Read a payload about a link. -/
def LinkMessage.read (payload : List UInt8) :
    Except Error LinkMessage := do
  let attributes ← attributesAfter LinkHeader.size payload
  return {
    header := LinkHeader.ofOctets payload
    name :=
      lastValue LinkAttribute.name (fun value => some (linkName value))
        attributes
    operState := lastValue LinkAttribute.operState List.head? attributes }

end Tunnel.Netlink
