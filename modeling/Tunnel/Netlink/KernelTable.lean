import Tunnel.Netlink.Connection
import Tunnel.Network.Table

/-!
# The kernel's tables

The address and route tables of the kernel, over a connection.  Only entries
of the main routing table that name an output interface are listed.  The
route of prefix length zero has no destination attribute, neither in a
request nor in an answer.
-/

namespace Tunnel.Netlink

/-- The index of an interface, without which the kernel cannot be asked. -/
def kernelIndex (interface : InterfaceId) : Except Error UInt32 :=
  match interface.index? with
  | some index => .ok index
  | none => .error (.interfaceNotFound (toString interface))

/-! ## Headers -/

/-- The main routing table. -/
def mainTable : UInt8 := 254

/-- Routes that an administrator added. -/
def staticProtocol : UInt8 := 4

/-- Routes to networks that are reached without a gateway. -/
def linkScope : UInt8 := 253

/-- Routes to one destination at a time. -/
def unicast : UInt8 := 1

/-- Addresses whose lifetime has no end. -/
def permanent : UInt8 := 0x80

/-- The header for an address of an interface. -/
def addressHeader (network : Prefix) (index : UInt32) : AddressHeader where
  family := familyNumber network.address.family
  length := UInt8.ofNat network.length
  flags := permanent
  index := index

/-- The header for a route to a network. -/
def routeHeader (destination : Prefix) : RouteHeader where
  family := familyNumber destination.address.family
  destinationLength := UInt8.ofNat destination.length
  table := mainTable
  protocol := staticProtocol
  scope := linkScope
  type := unicast

/-! ## Requests -/

def addAddressRequest (network : Prefix) (index : UInt32) : Request :=
  let address := network.address.toList
  Request.acknowledged PacketType.newAddress
      (RequestFlag.create ||| RequestFlag.exclusive)
    |>.append (addressHeader network index).toOctets
    |>.withAttribute AddressAttribute.localAddress address
    |>.withAttribute AddressAttribute.address address

def deleteAddressRequest (network : Prefix) (index : UInt32) : Request :=
  let header := { addressHeader network index with flags := 0 }
  Request.acknowledged PacketType.deleteAddress 0
    |>.append header.toOctets
    |>.withAttribute AddressAttribute.localAddress network.address.toList

/-- The destination, output interface and priority of a route. -/
def withRoute (request : Request) (destination : Prefix) (index : UInt32)
    (metric : UInt32) : Request :=
  let request :=
    if 0 < destination.length then
      request.withAttribute RouteAttribute.destination
        destination.address.toList
    else request
  request
    |>.withWord RouteAttribute.outputInterface index
    |>.withWord RouteAttribute.priority metric

/--
A new route does not exclude others to the same destination: the kernel
refuses one only if the same interface has it already.
-/
def addRouteRequest (destination : Prefix) (index : UInt32) : Request :=
  let request :=
    Request.acknowledged PacketType.newRoute RequestFlag.create
      |>.append (routeHeader destination).toOctets
  withRoute request destination index 0

def deleteRouteRequest (entry : RouteEntry) (index : UInt32) : Request :=
  let header :=
    { routeHeader entry.destination with protocol := 0, scope := 0, type := 0 }
  let request :=
    Request.acknowledged PacketType.deleteRoute 0
      |>.append header.toOctets
  withRoute request entry.destination index entry.metric

def listAddressesRequest : Request :=
  Request.dump PacketType.getAddress
    |>.append (AddressHeader.toOctets {})

def listRoutesRequest : Request :=
  Request.dump PacketType.getRoute
    |>.append (RouteHeader.toOctets {})

/-! ## Listings -/

/-- The address entry in an answer, if there is one. -/
def addressIn? (message : AddressMessage) : Option AddressEntry := do
  let address ← message.address
  let network ← (Prefix.make address message.header.length.toNat).toOption
  return { interface := InterfaceId.ofIndex message.header.index, network }

/-- The destination of a route; one without an address is all addresses. -/
def routeDestination? (message : RouteMessage) : Option Prefix :=
  match message.destination with
  | some address =>
      (Prefix.make address message.header.destinationLength.toNat).toOption
  | none =>
      if message.header.family = familyNumber .ipv6 then
        some (Prefix.everything .ipv6)
      else some (Prefix.everything .ipv4)

/-- The route entry in an answer, if there is one. -/
def routeIn? (message : RouteMessage) : Option RouteEntry := do
  guard (message.table = mainTable.toUInt32)
  let index ← message.outputInterface
  let destination ← routeDestination? message
  return {
    interface := InterfaceId.ofIndex index
    destination
    metric := message.priority.getD 0 }

/-- The entries in the answers of one type. -/
def entries {Message Entry : Type} (type : UInt16)
    (read : List UInt8 → Except Error Message)
    (entryIn? : Message → Option Entry) :
    List Answer → Except Error (List Entry)
  | [] => .ok []
  | answer :: rest =>
      if answer.type ≠ type then entries type read entryIn? rest
      else do
        let message ← read answer.payload
        let more ← entries type read entryIn? rest
        return (entryIn? message).toList ++ more

def addressEntries : List Answer → Except Error (List AddressEntry) :=
  entries PacketType.newAddress AddressMessage.read addressIn?

def routeEntries : List Answer → Except Error (List RouteEntry) :=
  entries PacketType.newRoute RouteMessage.read routeIn?

/-! ## The table -/

/-- Send a request for an interface, if it has an index. -/
def forInterface (interface : InterfaceId) (request : UInt32 → Request)
    (connection : Connection) : Except Error Unit × Connection :=
  match kernelIndex interface with
  | .error error => (.error error, connection)
  | .ok index => connection.acknowledge (request index)

/-- List what the answers to a request hold. -/
def list {Entry : Type} (request : Request)
    (read : List Answer → Except Error (List Entry))
    (connection : Connection) : Except Error (List Entry) × Connection :=
  match connection.dump request with
  | (.error error, connection) => (.error error, connection)
  | (.ok answers, connection) => (read answers, connection)

/-- The kernel's address and route tables. -/
def kernelTable : RouteTable (StateM Connection) where
  addAddress interface network :=
    forInterface interface (addAddressRequest network)
  addresses := list listAddressesRequest addressEntries
  deleteAddress entry :=
    forInterface entry.interface (deleteAddressRequest entry.network)
  addRoute interface destination :=
    forInterface interface (addRouteRequest destination)
  routes := list listRoutesRequest routeEntries
  deleteRoute entry :=
    forInterface entry.interface (deleteRouteRequest entry)

end Tunnel.Netlink
