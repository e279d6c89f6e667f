import Tunnel.Proofs.Netlink.Attribute
import Tunnel.Proofs.Netlink.RouteListing
import Tunnel.Proofs.Prefix

/-!
# Requests about entries of the tables

An entry is added and deleted with requests, and listed from answers, that are
written and read by different functions.  Here a request is taken back as the
packet that it sends (`Sends`), and an answer as what it makes a listing give
(`Lists`).  The payload that adds an entry, answered to a listing, lists that
entry, and the payload that deletes it is about the same entry
(`requests_agree_with_listings`).

Of a route to all addresses only the family is written: there is no
destination attribute, and what is listed has the unspecified address.
-/

namespace Tunnel.Netlink

/-! ## Sending -/

/--
On every connection that lets it send, an operation sends one datagram, which
is one packet of some type and payload.
-/
def Sends {α : Type} (operation : StateM Connection α) (type : UInt16)
    (payload : List UInt8) : Prop :=
  ∀ connection : Connection,
    (Connection.nextFault connection.sendFaults).1 = none →
    ∃ octets packet,
      (operation.run connection).2.sent = connection.sent ++ [octets] ∧
        Packet.readAll octets = [.ok packet] ∧
        packet.header.type = type ∧ packet.payload = payload

namespace Connection

/-- A connection that lets it send gives a request the next number. -/
theorem send_of_ready {connection : Connection} (request : Request)
    (ready : (nextFault connection.sendFaults).1 = none) :
    (connection.send request).1 = .ok connection.nextSequence ∧
      (connection.send request).2.sent =
        connection.sent ++
          [{ request with
            sequence := connection.nextSequence
            port := connection.port }.toOctets] := by
  unfold send
  generalize nextFault connection.sendFaults = outcome at ready
  obtain ⟨fault, later⟩ := outcome
  subst ready
  exact ⟨rfl, rfl⟩

/-- Waiting for answers sends nothing. -/
theorem sent_exchange {α : Type}
    (await : UInt32 → List Arrival → Except Error α × List Arrival)
    (connection : Connection) (request : Request) :
    (exchange await connection request).2.sent =
      (connection.send request).2.sent := by
  unfold exchange
  split
  · next failed => rw [failed]
  · next sent => rw [sent]

end Connection

/-! ## Requests about an entry -/

/-- An attribute without flags that is no wider than an address. -/
structure Attribute.IsNarrow (entry : Attribute) : Prop where
  plain : entry.plain = entry
  length : entry.value.length ≤ 16

/-- A request about an entry: a short header and a few narrow attributes. -/
structure Request.IsAboutEntry (request : Request) (header : List UInt8)
    (attributes : List Attribute) : Prop
    extends request.Holds header attributes where
  length : header.length ≤ 12
  few : attributes.length ≤ 3
  narrow : ∀ entry ∈ attributes, entry.IsNarrow

section Narrow

variable {type : UInt16} (flagless : type &&& attributeTypeMask = type)

include flagless

theorem isNarrow_address (address : IpAddress) :
    Attribute.IsNarrow ⟨type, address.toList⟩ where
  plain := congrArg (Attribute.mk · _) flagless
  length := by
    rw [IpAddress.length_toList]
    cases address.family <;> decide

theorem isNarrow_word (word : UInt32) :
    Attribute.IsNarrow ⟨type, littleEndian 4 word.toNat⟩ where
  plain := congrArg (Attribute.mk · _) flagless
  length := by
    rw [length_littleEndian]
    decide

end Narrow

/-- Narrow attributes do not take much room. -/
theorem length_flatMap_le {attributes : List Attribute}
    (narrow : ∀ entry ∈ attributes, entry.IsNarrow) :
    (attributes.flatMap Attribute.toOctets).length ≤
      20 * attributes.length := by
  induction attributes with
  | nil => exact Nat.le_refl 0
  | cons entry attributes ih =>
      obtain ⟨⟨-, first⟩, others⟩ := List.forall_mem_cons.1 narrow
      have room : align (attributeHeader + entry.value.length) ≤ 20 := by
        unfold align attributeHeader
        omega
      have more := ih others
      rw [List.flatMap_cons, List.length_append, List.length_cons,
        Attribute.length_toOctets]
      omega

namespace Request.IsAboutEntry

variable {request : Request} {header : List UInt8}
  {attributes : List Attribute}
  (entry : request.IsAboutEntry header attributes)

include entry

theorem length_body_le : request.body.length ≤ 72 := by
  have front := entry.length
  have few := entry.few
  have rear := length_flatMap_le entry.narrow
  rw [entry.body, List.length_append]
  omega

/-- The attributes read back as they were written. -/
theorem readAll : Attribute.readAll (request.body.drop header.length) =
    attributes := by
  have fit : ∀ each ∈ attributes, each.value.length ≤ Attribute.widest :=
    fun each member =>
      Nat.le_trans (entry.narrow each member).length (by decide)
  have plain : attributes.map Attribute.plain = attributes.map id :=
    List.map_congr_left fun each member => (entry.narrow each member).plain
  rw [Attribute.readAll, entry.readThrough_drop fit, plain, List.map_id]

/-- The request is sent as it stands. -/
theorem sends {interface : InterfaceId} {index : UInt32} {type : UInt16}
    {requests : UInt32 → Request} (known : interface.index? = some index)
    (same : requests index = request) (typed : request.type = type) :
    Sends (forInterface interface requests : StateM Connection _) type
      request.body := by
  intro connection ready
  have short : request.length < 2 ^ 32 := by
    have body := entry.length_body_le
    rw [Request.length, headerSize]
    omega
  let numbered : Request := { request with
    sequence := connection.nextSequence
    port := connection.port }
  refine ⟨numbered.toOctets, numbered.toPacket, ?_, ?_, typed, rfl⟩
  · show (forInterface interface requests connection).2.sent = _
    unfold forInterface kernelIndex
    rw [known]
    dsimp only
    rw [same]
    exact (Connection.sent_exchange _ connection request).trans
      (Connection.send_of_ready request ready).2
  · exact Request.readAll_toOctets entry.length_body_mod short

end Request.IsAboutEntry

section Interface

variable {interface : InterfaceId}

/-- Without an index nothing is sent. -/
theorem forInterface_of_unknown (requests : UInt32 → Request)
    (unknown : interface.index? = none) (connection : Connection) :
    forInterface interface requests connection =
      (.error (.interfaceNotFound (toString interface)), connection) := by
  unfold forInterface kernelIndex
  rw [unknown]

theorem index?_eq_none_iff :
    interface.index? = none ↔
      interface.raw.toNat = 0 ∨ 2 ^ 32 ≤ interface.raw.toNat := by
  unfold InterfaceId.index?
  rw [ite_eq_right_iff]
  simp only [reduceCtorEq, imp_false, UInt32.size]
  omega

end Interface

/-! ## Listing -/

/--
The connection when a listing is answered with one packet of some type and
payload, and ends.
-/
def Connection.answering (connection : Connection) (type : UInt16)
    (payload : List UInt8) (later : List Arrival) : Connection :=
  connection.hearing
    [[.of type connection.nextSequence payload,
      .of PacketType.done connection.nextSequence [0, 0, 0, 0]]] later

/-- A listing that is answered with one packet gives one entry. -/
def Lists {Entry : Type}
    (listing : StateM Connection (Except Error (List Entry))) (type : UInt16)
    (payload : List UInt8) (entry : Entry) : Prop :=
  ∀ (connection : Connection) (later : List Arrival),
    (Connection.nextFault connection.sendFaults).1 = none →
    (listing.run (connection.answering type payload later)).1 = .ok [entry]

section Listing

variable {type : UInt16} {payload : List UInt8}

theorem dump_answering {connection : Connection} (request : Request)
    (later : List Arrival)
    (ready : (Connection.nextFault connection.sendFaults).1 = none)
    (short : payload.length ≤ 1024)
    (calm : type ≠ PacketType.error) (more : type ≠ PacketType.done) :
    ((connection.answering type payload later).dump request).1 =
      .ok [⟨type, payload⟩] := by
  obtain ⟨sent, -⟩ := Connection.send_of_ready request ready
  let item := Packet.of type connection.nextSequence payload
  let done := Packet.of PacketType.done connection.nextSequence [0, 0, 0, 0]
  have peaceful : item.header.isError = false := decide_eq_false calm
  have onward : item.header.isDone = false := decide_eq_false more
  have own : item.isOf connection.nextSequence = true :=
    decide_eq_true rfl
  have formed : ∀ packet ∈ [item] ++ done :: [], packet.IsWellFormed := by
    refine List.forall_mem_cons.2 ⟨?_, List.forall_mem_singleton.2 ?_⟩
    · exact Packet.isWellFormed_of
        (by rw [headerSize]; omega) peaceful
    · exact Packet.isWellFormed_of (by decide) rfl
  have received : Receivable [[item, done]] := by
    refine List.forall_mem_singleton.2 ⟨?_, formed⟩
    have wide : Packet.datagram [item, done] =
        item.toOctets ++ done.toOctets := by
      simp only [Packet.datagram, List.flatMap_cons, List.flatMap_nil,
        List.append_nil]
    have payloads : item.payload.length = payload.length ∧
        done.payload.length = 4 := ⟨rfl, rfl⟩
    rw [wide, List.length_append, Packet.length_toOctets,
      Packet.length_toOctets, payloads.1, payloads.2]
    unfold align headerSize receiveLimit
    omega
  have quiet : ∀ packet ∈ [item],
      packet.endsDump connection.nextSequence = false := by
    refine List.forall_mem_singleton.2 ?_
    rw [Packet.endsDump, Packet.isRefusal, onward, peaceful, own]
    rfl
  have ends : done.endsDump connection.nextSequence = true := by
    rw [Packet.endsDump, Packet.isOf]
    simp [done, Packet.of, Header.isDone]
  have single : Packet.items connection.nextSequence [item] =
      [⟨type, payload⟩] := by
    rw [Packet.items, List.filter_cons_of_pos
      (by rw [Packet.isItem, own, peaceful, onward]; rfl)]
    rfl
  rw [Connection.answering, Connection.dump_hearing sent received]
  dsimp only
  rw [show [[item, done]].flatten = [item] ++ done :: [] from rfl,
    scanDump_ends formed quiet ends, single]
  rfl

/-- A listing is translated from what is dumped. -/
theorem run_list {Entry : Type} {request : Request}
    {read : List Answer → Except Error (List Entry)} {answers : List Answer}
    {connection : Connection}
    (dumped : (connection.dump request).1 = .ok answers) :
    (list request read connection).1 = read answers := by
  unfold list
  generalize connection.dump request = outcome at dumped
  obtain ⟨result, later⟩ := outcome
  subst dumped
  rfl

theorem entries_singleton {Message Entry : Type}
    {read : List UInt8 → Except Error Message}
    {entryIn? : Message → Option Entry} {message : Message} {entry : Entry}
    (isRead : read payload = .ok message)
    (made : entryIn? message = some entry) :
    entries type read entryIn? [⟨type, payload⟩] = .ok [entry] := by
  rw [entries, if_neg (not_not_intro rfl), isRead]
  show Except.ok ((entryIn? message).toList ++ []) = _
  rw [made]
  rfl

end Listing

/-! ## Headers -/

namespace AddressHeader

variable (header : AddressHeader)

theorem length_toOctets : header.toOctets.length = size := by
  simp [toOctets, size]

theorem ofOctets_toOctets (rest : List UInt8) :
    ofOctets (header.toOctets ++ rest) = header :=
  congrArg (mk header.family header.length header.flags header.scope)
    (wordAt_word32 rest header.index)

theorem holds_append {request : Request} (empty : request.body = []) :
    (request.append header.toOctets).Holds header.toOctets [] :=
  .start empty (congrArg (· % 4) header.length_toOctets)

end AddressHeader

namespace RouteHeader

variable (header : RouteHeader)

theorem length_toOctets : header.toOctets.length = size := by
  simp [toOctets, size]

theorem ofOctets_toOctets (rest : List UInt8) :
    ofOctets (header.toOctets ++ rest) = header :=
  congrArg (mk header.family header.destinationLength header.sourceLength
    header.service header.table header.protocol header.scope header.type)
    (wordAt_word32 rest header.flags)

theorem holds_append {request : Request} (empty : request.body = []) :
    (request.append header.toOctets).Holds header.toOctets [] :=
  .start empty (congrArg (· % 4) header.length_toOctets)

end RouteHeader

/-! ## Requests for each operation -/

section Requests

variable (network : Prefix) (index metric : UInt32)

theorem isAboutEntry_addAddress :
    (addAddressRequest network index).IsAboutEntry
      (addressHeader network index).toOctets
      [⟨AddressAttribute.localAddress, network.address.toList⟩,
        ⟨AddressAttribute.address, network.address.toList⟩] where
  toHolds :=
    (((addressHeader network index).holds_append rfl).withAttribute _ _
      ).withAttribute _ _
  length := Nat.le_trans (Nat.le_of_eq (AddressHeader.length_toOctets _))
    (by decide)
  few := (by decide : 2 ≤ 3)
  narrow := List.forall_mem_cons.2 ⟨isNarrow_address rfl _,
    List.forall_mem_singleton.2 (isNarrow_address rfl _)⟩

theorem isAboutEntry_deleteAddress :
    (deleteAddressRequest network index).IsAboutEntry
      { addressHeader network index with flags := 0 }.toOctets
      [⟨AddressAttribute.localAddress, network.address.toList⟩] where
  toHolds := (AddressHeader.holds_append _ rfl).withAttribute _ _
  length := Nat.le_trans (Nat.le_of_eq (AddressHeader.length_toOctets _))
    (by decide)
  few := (by decide : 1 ≤ 3)
  narrow := List.forall_mem_singleton.2 (isNarrow_address rfl _)

/-- The attributes of a route; all addresses have no destination. -/
def attributesOfRoute : List Attribute :=
  (if 0 < network.length then
      [⟨RouteAttribute.destination, network.address.toList⟩]
    else []) ++
    [⟨RouteAttribute.outputInterface, littleEndian 4 index.toNat⟩,
      ⟨RouteAttribute.priority, littleEndian 4 metric.toNat⟩]

variable {network index metric}

theorem type_withRoute (request : Request) :
    (withRoute request network index metric).type = request.type := by
  unfold withRoute
  split <;> rfl

theorem isAboutEntry_withRoute {request : Request} {header : List UInt8}
    (start : request.Holds header []) (length : header.length ≤ 12) :
    (withRoute request network index metric).IsAboutEntry header
      (attributesOfRoute network index metric) := by
  have words : ∀ entry ∈ [
      (⟨RouteAttribute.outputInterface, littleEndian 4 index.toNat⟩ :
        Attribute),
      ⟨RouteAttribute.priority, littleEndian 4 metric.toNat⟩],
      entry.IsNarrow :=
    List.forall_mem_cons.2 ⟨isNarrow_word rfl _,
      List.forall_mem_singleton.2 (isNarrow_word rfl _)⟩
  unfold withRoute attributesOfRoute
  split
  · exact {
      toHolds := ((start.withAttribute _ _).withAttribute _ _).withAttribute
        _ _
      length
      few := (by decide : 3 ≤ 3)
      narrow := List.forall_mem_cons.2 ⟨isNarrow_address rfl _, words⟩ }
  · exact {
      toHolds := (start.withAttribute _ _).withAttribute _ _
      length
      few := (by decide : 2 ≤ 3)
      narrow := words }

theorem isAboutEntry_addRoute :
    (addRouteRequest network index).IsAboutEntry
      (routeHeader network).toOctets (attributesOfRoute network index 0) :=
  isAboutEntry_withRoute (RouteHeader.holds_append _ rfl)
    (Nat.le_of_eq (RouteHeader.length_toOctets _))

theorem isAboutEntry_deleteRoute {entry : RouteEntry} :
    (deleteRouteRequest entry index).IsAboutEntry
      { routeHeader entry.destination with
        protocol := 0, scope := 0, type := 0 }.toOctets
      (attributesOfRoute entry.destination index entry.metric) :=
  isAboutEntry_withRoute (RouteHeader.holds_append _ rfl)
    (Nat.le_of_eq (RouteHeader.length_toOctets _))

end Requests

/-! ## Payloads about addresses -/

/-- The values of the attributes of a type. -/
def valuesOf (type : UInt16) (attributes : List Attribute) :
    List (List UInt8) :=
  (attributes.filter (·.type = type)).map (·.value)

/-- A payload is about a network of an interface. -/
structure IsAboutAddress (network : Prefix) (index : UInt32)
    (payload : List UInt8) : Prop where
  family : (AddressHeader.ofOctets payload).family =
    familyNumber network.address.family
  length : (AddressHeader.ofOctets payload).length.toNat = network.length
  index : (AddressHeader.ofOctets payload).index = index
  localAddress :
    valuesOf AddressAttribute.localAddress
        (Attribute.readAll (payload.drop AddressHeader.size)) =
      [network.address.toList]

theorem toNat_length (network : Prefix) :
    (UInt8.ofNat network.length).toNat = network.length :=
  UInt8.toNat_ofNat_of_lt' network.length_lt_octet

/-- The octets of an address are read as of its family. -/
theorem address?_toList (address : IpAddress) :
    address? address.toList (familyNumber address.family) = some address := by
  rw [address?, family?_familyNumber, Option.bind_some]
  simpa using address.take?_toList []

section Address

variable {network : Prefix} {index : UInt32} {request : Request}
  {header : AddressHeader} {attributes : List Attribute}

theorem Request.IsAboutEntry.isAboutAddress
    (entry : request.IsAboutEntry header.toOctets attributes)
    (same : header =
      { addressHeader network index with flags := header.flags })
    (values : valuesOf AddressAttribute.localAddress attributes =
      [network.address.toList]) :
    IsAboutAddress network index request.body := by
  have front : AddressHeader.ofOctets request.body = header := by
    rw [entry.body, AddressHeader.ofOctets_toOctets]
  refine ⟨?_, ?_, ?_, ?_⟩
  · rw [front, same]
    rfl
  · rw [front, same]
    exact toNat_length network
  · rw [front, same]
    rfl
  · have read : Attribute.readAll (request.body.drop AddressHeader.size) =
        attributes := entry.readAll
    rw [read, values]

/-- What adds an address is read as that address. -/
theorem read_addAddress :
    AddressMessage.read (addAddressRequest network index).body =
      .ok ⟨addressHeader network index, some network.address⟩ := by
  have entry := isAboutEntry_addAddress network index
  have front : AddressHeader.ofOctets (addAddressRequest network index).body =
      addressHeader network index := by
    rw [entry.body, AddressHeader.ofOctets_toOctets]
  have complete : AddressHeader.size ≤
      (addAddressRequest network index).body.length := by
    rw [entry.body, List.length_append]
    exact Nat.le_add_right _ _
  have rest : Attribute.readAll
      ((addAddressRequest network index).body.drop AddressHeader.size) = _ :=
    entry.readAll
  unfold AddressMessage.read attributesAfter
  rw [if_pos complete, front, rest]
  have known : address? network.address.toList
      (addressHeader network index).family = some network.address :=
    address?_toList network.address
  show Except.ok (AddressMessage.mk _ (Option.or (address? _ _) _)) = _
  rw [known]
  rfl

theorem lists_addAddress {interface : InterfaceId}
    (known : interface.index? = some index) :
    Lists kernelTable.addresses PacketType.newAddress
      (addAddressRequest network index).body ⟨interface, network⟩ := by
  intro connection later ready
  have dumped := dump_answering listAddressesRequest later ready
    (Nat.le_trans (isAboutEntry_addAddress network index).length_body_le
      (by decide))
    (by decide : PacketType.newAddress ≠ PacketType.error) (by decide)
  refine (run_list dumped).trans (entries_singleton read_addAddress ?_)
  unfold addressIn?
  simp only [Option.bind_eq_bind, Option.bind_some]
  rw [show (addressHeader network index).length.toNat = _ from
    toNat_length network, Prefix.make_address_length]
  simp only [Except.toOption, Option.bind_some, Option.pure_def]
  rw [show (addressHeader network index).index = index from rfl,
    InterfaceId.ofIndex_of_index? known]

end Address

/-! ## Payloads about routes -/

/-- A payload is about a route of the main table to a network. -/
structure IsAboutRoute (network : Prefix) (index metric : UInt32)
    (payload : List UInt8) : Prop where
  family : (RouteHeader.ofOctets payload).family =
    familyNumber network.address.family
  length : (RouteHeader.ofOctets payload).destinationLength.toNat =
    network.length
  table : (RouteHeader.ofOctets payload).table = mainTable
  destination :
    valuesOf RouteAttribute.destination (routeAttributes payload) =
      if network.length = 0 then [] else [network.address.toList]
  outputInterface :
    valuesOf RouteAttribute.outputInterface (routeAttributes payload) =
      [littleEndian 4 index.toNat]
  priority :
    valuesOf RouteAttribute.priority (routeAttributes payload) =
      [littleEndian 4 metric.toNat]

/-- A network as it is listed: of all addresses only the family is known. -/
def listedNetwork (network : Prefix) : Prefix :=
  if network.length = 0 then .everything network.address.family else network

section Route

variable {network : Prefix} {index metric : UInt32} {request : Request}
  {header : RouteHeader}

theorem family_listedNetwork :
    (listedNetwork network).address.family = network.address.family := by
  unfold listedNetwork
  split
  · exact IpAddress.family_unspecified _
  · rfl

theorem length_listedNetwork :
    (listedNetwork network).length = network.length := by
  unfold listedNetwork
  split
  · next zero => exact zero.symm
  · rfl

/-- What is deleted for a listed route is the route itself. -/
theorem deleteRouteRequest_listedNetwork {interface : InterfaceId} :
    deleteRouteRequest ⟨interface, listedNetwork network, metric⟩ index =
      deleteRouteRequest ⟨interface, network, metric⟩ index := by
  by_cases zero : network.length = 0
  · have same : routeHeader (listedNetwork network) =
        routeHeader network := by
      rw [routeHeader, family_listedNetwork, length_listedNetwork]
      rfl
    have none : ¬ 0 < (listedNetwork network).length := by
      rw [length_listedNetwork, zero]
      decide
    have alsoNone : ¬ 0 < network.length := by omega
    unfold deleteRouteRequest withRoute
    dsimp only
    rw [same, if_neg none, if_neg alsoNone]
  · rw [listedNetwork, if_neg zero]

theorem valuesOf_attributesOfRoute :
    let attributes := attributesOfRoute network index metric
    valuesOf RouteAttribute.destination attributes =
        (if network.length = 0 then [] else [network.address.toList]) ∧
      valuesOf RouteAttribute.outputInterface attributes =
        [littleEndian 4 index.toNat] ∧
      valuesOf RouteAttribute.priority attributes =
        [littleEndian 4 metric.toNat] := by
  unfold attributesOfRoute
  by_cases zero : network.length = 0
  · rw [if_pos zero, if_neg (by omega)]
    exact ⟨rfl, rfl, rfl⟩
  · rw [if_neg zero, if_pos (by omega)]
    exact ⟨rfl, rfl, rfl⟩

theorem Request.IsAboutEntry.isAboutRoute
    (entry : request.IsAboutEntry header.toOctets
      (attributesOfRoute network index metric))
    (same : header =
      { routeHeader network with
        protocol := header.protocol
        scope := header.scope
        type := header.type }) :
    IsAboutRoute network index metric request.body := by
  have front : RouteHeader.ofOctets request.body = header := by
    rw [entry.body, RouteHeader.ofOctets_toOctets]
  have read : routeAttributes request.body =
      attributesOfRoute network index metric := by
    rw [routeAttributes, ← header.length_toOctets, entry.readAll]
  obtain ⟨destination, output, priority⟩ :=
    @valuesOf_attributesOfRoute network index metric
  refine ⟨?_, ?_, ?_, ?_, ?_, ?_⟩
  · rw [front, same]
    rfl
  · rw [front, same]
    exact toNat_length network
  · rw [front, same]
    rfl
  · rw [read, destination]
  · rw [read, output]
  · rw [read, priority]

theorem word32?_littleEndian (word : UInt32) :
    word32? (littleEndian 4 word.toNat) = some word := by
  have same := wordAt_word32 [] word
  rw [List.append_nil] at same
  rw [word32?, if_pos (Nat.le_of_eq (length_littleEndian _ _).symm), same]

/-- What stands in the payload that adds a route. -/
theorem addRoute_payload :
    routeHeaderIn (addRouteRequest network index).body =
        routeHeader network ∧
      routeAttributes (addRouteRequest network index).body =
        attributesOfRoute network index 0 := by
  have entry := @isAboutEntry_addRoute network index
  refine ⟨?_, ?_⟩
  · rw [routeHeaderIn, entry.body, RouteHeader.ofOctets_toOctets]
  · rw [routeAttributes, ← (routeHeader network).length_toOctets,
      entry.readAll]

/-- The attributes of a route to all addresses name no destination. -/
theorem no_destination_of_zero (zero : network.length = 0) :
    ∀ entry ∈ attributesOfRoute network index metric,
      entry.type ≠ RouteAttribute.destination := by
  rw [attributesOfRoute, if_neg (by omega), List.nil_append]
  refine List.forall_mem_cons.2 ⟨?_, List.forall_mem_singleton.2 ?_⟩
  · exact (by decide :
      RouteAttribute.outputInterface ≠ RouteAttribute.destination)
  · exact (by decide : RouteAttribute.priority ≠ RouteAttribute.destination)

/-- What adds a route names its network, as it is listed. -/
theorem names_addRoute :
    Names (addRouteRequest network index).body (listedNetwork network) := by
  obtain ⟨header, attributes⟩ := @addRoute_payload network index
  refine ⟨?_, ?_, ?_⟩
  · rw [header, family_listedNetwork]
    exact family?_familyNumber _
  · rw [header, length_listedNetwork]
    exact (toNat_length network).symm
  · rw [attributes, listedNetwork]
    by_cases zero : network.length = 0
    · rw [if_pos zero]
      refine .inr ⟨no_destination_of_zero zero, rfl, ?_⟩
      show IpAddress.unspecified _ =
        .unspecified (IpAddress.family (.unspecified _))
      rw [IpAddress.family_unspecified]
    · rw [if_neg zero, attributesOfRoute, if_pos (by omega)]
      refine .inl (lastSays_iff.2 ?_)
      have taken := network.address.take?_toList []
      rw [List.append_nil] at taken
      exact taken

theorem lists_addRoute {interface : InterfaceId}
    (known : interface.index? = some index) :
    Lists kernelTable.routes PacketType.newRoute
      (addRouteRequest network index).body
      ⟨interface, listedNetwork network, 0⟩ := by
  intro connection later ready
  have entry := @isAboutEntry_addRoute network index
  obtain ⟨header, attributes⟩ := @addRoute_payload network index
  have dumped := dump_answering listRoutesRequest later ready
    (Nat.le_trans entry.length_body_le (by decide))
    (by decide : PacketType.newRoute ≠ PacketType.error) (by decide)
  have complete : RouteHeader.size ≤
      (addRouteRequest network index).body.length := by
    rw [entry.body, List.length_append, RouteHeader.length_toOctets]
    exact Nat.le_add_right _ _
  have words : ∀ entry ∈ attributesOfRoute network index 0,
      tableIn? entry = none := by
    unfold attributesOfRoute
    split <;> simp [tableIn?, RouteAttribute.table,
      RouteAttribute.destination, RouteAttribute.outputInterface,
      RouteAttribute.priority]
  have output : lastValue RouteAttribute.outputInterface word32?
      (attributesOfRoute network index 0) = some index := by
    rw [← word32?_littleEndian index, attributesOfRoute]
    split <;> rfl
  have priority : lastValue RouteAttribute.priority word32?
      (attributesOfRoute network index 0) = some 0 := by
    rw [← word32?_littleEndian 0, attributesOfRoute]
    split <;> rfl
  refine (run_list dumped).trans (entries_singleton
    (RouteMessage.read_eq_ok_iff.2 ⟨complete, rfl⟩)
    (routeIn?_eq_some_iff.2 ⟨isInMainTable_iff.1 (.inr ?_), ⟨index, ?_, ?_⟩,
      ?_, routeDestination?_of_names names_addRoute⟩))
  · rw [header, attributes]
    exact ⟨words, rfl⟩
  · rw [← attributes] at output
    exact output
  · exact (InterfaceId.ofIndex_of_index? known).symm
  · rw [← attributes] at priority
    exact (congrArg (·.getD 0) priority).symm

end Route

/-! ## Agreement -/

/--
What adds an entry, what lists it and what deletes it agree on its encoding,
for every network of either family.  The payload that adds an address lists
exactly that address, and the payload that deletes it has the same family,
length, index and local address.  The same holds of a route of metric zero,
where of all addresses only the family is kept and no destination is written.
An interface without an index is not found, and nothing is sent.
-/
theorem requests_agree_with_listings (interface : InterfaceId)
    (network : Prefix) :
    (∀ index, interface.index? = some index →
      (∃ added deleted,
        let entry : AddressEntry := ⟨interface, network⟩
        Sends (kernelTable.addAddress interface network)
            PacketType.newAddress added ∧
          Lists kernelTable.addresses PacketType.newAddress added entry ∧
          Sends (kernelTable.deleteAddress entry) PacketType.deleteAddress
            deleted ∧
          IsAboutAddress network index added ∧
          IsAboutAddress network index deleted) ∧
      ∃ added deleted,
        let entry : RouteEntry := ⟨interface, listedNetwork network, 0⟩
        Sends (kernelTable.addRoute interface network) PacketType.newRoute
            added ∧
          Lists kernelTable.routes PacketType.newRoute added entry ∧
          Sends (kernelTable.deleteRoute entry) PacketType.deleteRoute
            deleted ∧
          IsAboutRoute network index 0 added ∧
          IsAboutRoute network index 0 deleted) ∧
    (interface.index? = none ↔
      interface.raw.toNat = 0 ∨ 2 ^ 32 ≤ interface.raw.toNat) ∧
    (interface.index? = none → ∀ (metric : UInt32),
      ∀ operation ∈ [
        kernelTable.addAddress interface network,
        kernelTable.deleteAddress ⟨interface, network⟩,
        kernelTable.addRoute interface network,
        kernelTable.deleteRoute ⟨interface, network, metric⟩],
      ∀ connection, operation.run connection =
        (.error (.interfaceNotFound (toString interface)), connection)) := by
  refine ⟨fun index known => ⟨?_, ?_⟩, index?_eq_none_iff, ?_⟩
  · have adding := isAboutEntry_addAddress network index
    have deleting := isAboutEntry_deleteAddress network index
    exact ⟨_, _, adding.sends known rfl rfl, lists_addAddress known,
      deleting.sends known rfl rfl, adding.isAboutAddress rfl rfl,
      deleting.isAboutAddress rfl rfl⟩
  · have adding := @isAboutEntry_addRoute network index
    have deleting := @isAboutEntry_deleteRoute index ⟨interface, network, 0⟩
    exact ⟨_, _, adding.sends known rfl (type_withRoute _),
      lists_addRoute known,
      deleting.sends known deleteRouteRequest_listedNetwork
        (type_withRoute _),
      adding.isAboutRoute rfl, deleting.isAboutRoute rfl⟩
  · intro unknown metric operation member connection
    simp only [List.mem_cons, List.not_mem_nil, or_false] at member
    rcases member with rfl | rfl | rfl | rfl <;>
      exact forInterface_of_unknown _ unknown connection

theorem requests_agree_with_listings_everything :
    let third := InterfaceId.ofIndex 3
    let nowhere : InterfaceId := ⟨0⟩
    third.index? = some 3 ∧
      (∃ added, Sends (kernelTable.addRoute third (.everything .ipv6))
          PacketType.newRoute added ∧
        Lists kernelTable.routes PacketType.newRoute added
          ⟨third, .everything .ipv6, 0⟩) ∧
      nowhere.index? = none ∧
      (kernelTable.addRoute nowhere (.everything .ipv6)).run freshConnection =
        (.error (.interfaceNotFound (toString nowhere)),
          freshConnection) := by
  intro third nowhere
  have known : third.index? = some 3 := by decide
  have unknown : nowhere.index? = none := by decide
  obtain ⟨agree, -, -⟩ :=
    requests_agree_with_listings third (.everything .ipv6)
  obtain ⟨-, added, -, sends, lists, -⟩ := agree 3 known
  obtain ⟨-, -, fails⟩ :=
    requests_agree_with_listings nowhere (.everything .ipv6)
  exact ⟨known, ⟨added, sends, lists⟩, unknown,
    fails unknown 0 _ (.tail _ (.tail _ (.head _))) freshConnection⟩

end Tunnel.Netlink
