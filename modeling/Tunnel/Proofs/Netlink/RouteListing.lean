import Tunnel.Netlink.KernelTable
import Tunnel.Proofs.Netlink.Exchange
import Tunnel.Proofs.Netlink.LastAttribute
import Tunnel.Proofs.Network.Removal
import Tunnel.Proofs.Outcome

/-!
# What a listing of routes says

The kernel is asked for the routes of all families at once, so answers of any
shape have to be translated.  Here it is said what a payload has to hold for
an entry to be listed (`IsRouteIn`), and that every answer gives such an entry
or none (`routes_listed`).

A destination is named by the last destination attribute, or by a prefix
length of zero without such an attribute (`Names`).  But the listing also takes
a destination that it cannot read for the network of all addresses, whatever
the family is and however long the prefix (`Invented`).  A pass that removes
routes then asks the kernel to delete a default route that nobody listed
(`invented_default_route`).
-/

namespace Tunnel.Netlink

/-! ## Routes in payloads -/

section Payload

variable (payload : List UInt8)

/-- The header of a payload about a route. -/
def routeHeaderIn : RouteHeader :=
  RouteHeader.ofOctets payload

/-- The attributes of a payload about a route. -/
def routeAttributes : List Attribute :=
  Attribute.readAll (payload.drop RouteHeader.size)

/-- The table that an attribute of a route names. -/
def tableIn? (entry : Attribute) : Option UInt32 :=
  if entry.type = RouteAttribute.table then word32? entry.value else none

/--
A payload is about the main table: the last table that can be read says so, or
the header where no attribute does.
-/
def IsInMainTable : Prop :=
  (∃ last, IsLast (tableIn? · ≠ none) (routeAttributes payload) last ∧
      tableIn? last = some mainTable.toUInt32) ∨
    ((∀ entry ∈ routeAttributes payload, tableIn? entry = none) ∧
      (routeHeaderIn payload).table = mainTable)

/-- The destination is the one that a payload names. -/
structure Names (destination : Prefix) : Prop where
  family : family? (routeHeaderIn payload).family =
    some destination.address.family
  length : destination.length =
    (routeHeaderIn payload).destinationLength.toNat
  address :
    LastSays RouteAttribute.destination
        (IpAddress.take? destination.address.family)
        (routeAttributes payload) (some destination.address) ∨
      ((∀ entry ∈ routeAttributes payload,
          entry.type ≠ RouteAttribute.destination) ∧
        destination.length = 0 ∧
        destination.address =
          IpAddress.unspecified destination.address.family)

/-- The family that a number is taken for where no address can be read. -/
def assumedFamily (number : UInt8) : Family :=
  if number = familyNumber .ipv6 then .ipv6 else .ipv4

/--
The destination is all addresses because the payload's own cannot be read: it
is of another family, its attribute is too short, or the attribute is missing
although a prefix length is given.
-/
structure Invented (destination : Prefix) : Prop where
  everything : destination =
    .everything (assumedFamily (routeHeaderIn payload).family)
  unread :
    LastSays RouteAttribute.destination
      (address? · (routeHeaderIn payload).family)
      (routeAttributes payload) none
  reason : family? (routeHeaderIn payload).family = none ∨
    (routeHeaderIn payload).destinationLength ≠ 0 ∨
    ∃ entry ∈ routeAttributes payload,
      entry.type = RouteAttribute.destination

end Payload

/-- The entry that an answer gives to a listing of routes. -/
structure IsRouteIn (answer : Answer) (entry : RouteEntry) : Prop where
  type : answer.type = PacketType.newRoute
  complete : RouteHeader.size ≤ answer.payload.length
  table : IsInMainTable answer.payload
  interface : ∃ index,
    LastSays RouteAttribute.outputInterface word32?
      (routeAttributes answer.payload) (some index) ∧
    entry.interface = InterfaceId.ofIndex index
  metric : ∃ said,
    LastSays RouteAttribute.priority word32?
      (routeAttributes answer.payload) said ∧
    entry.metric = said.getD 0
  destination : Names answer.payload entry.destination ∨
    Invented answer.payload entry.destination

/-! ## Reading payloads -/

/-- What is read from a payload that is as long as its header. -/
def RouteMessage.ofPayload (payload : List UInt8) : RouteMessage :=
  let address := (address? · (routeHeaderIn payload).family)
  let attributes := routeAttributes payload
  { header := routeHeaderIn payload
    destination := lastValue RouteAttribute.destination address attributes
    outputInterface :=
      lastValue RouteAttribute.outputInterface word32? attributes
    gateway := lastValue RouteAttribute.gateway address attributes
    priority := lastValue RouteAttribute.priority word32? attributes
    table := (attributes.filterMap tableIn?).getLast?.getD
      (routeHeaderIn payload).table.toUInt32 }

section Reading

variable {payload : List UInt8} {destination : Prefix}

theorem RouteMessage.read_eq_ite :
    RouteMessage.read payload =
      if RouteHeader.size ≤ payload.length then .ok (.ofPayload payload)
      else .error shortPayload := by
  unfold RouteMessage.read attributesAfter
  split <;> rfl

theorem RouteMessage.read_eq_ok_iff {message : RouteMessage} :
    RouteMessage.read payload = .ok message ↔
      RouteHeader.size ≤ payload.length ∧
        message = .ofPayload payload := by
  rw [read_eq_ite]
  split
  · next complete =>
      rw [Except.ok.injEq]
      exact ⟨fun same => ⟨complete, same.symm⟩, fun both => both.2.symm⟩
  · next short => exact ⟨nofun, fun both => absurd both.1 short⟩

theorem isInMainTable_iff :
    IsInMainTable payload ↔
      (RouteMessage.ofPayload payload).table = mainTable.toUInt32 := by
  unfold IsInMainTable RouteMessage.ofPayload
  dsimp only
  rw [← getLast?_filterMap_eq_some_iff, ← List.filterMap_eq_nil_iff]
  cases found : (List.filterMap tableIn? (routeAttributes payload)).getLast?
    with
  | none =>
      rw [List.getLast?_eq_none_iff] at found
      simp [found, UInt8.toUInt32_inj]
  | some number =>
      have full : (routeAttributes payload).filterMap tableIn? ≠ [] := by
        rintro empty
        rw [empty] at found
        cases found
      simp [full]

/-- The family that a number stands for, if it stands for one. -/
theorem family?_eq_some_iff {number : UInt8} {family : Family} :
    family? number = some family ↔ number = familyNumber family := by
  constructor
  · intro found
    unfold family? at found
    split at found
    · next four => cases found; exact four
    · split at found
      · next six => cases found; exact six
      · cases found
  · rintro rfl
    exact family?_familyNumber family

theorem family_take? {family : Family} {value : List UInt8}
    {address : IpAddress} (taken : IpAddress.take? family value = some address) :
    address.family = family := by
  cases family <;>
    obtain ⟨octets, -, rfl⟩ := Option.map_eq_some_iff.1 taken <;> rfl

theorem address?_eq_some_iff {value : List UInt8} {number : UInt8}
    {address : IpAddress} :
    address? value number = some address ↔
      family? number = some address.family ∧
        IpAddress.take? address.family value = some address := by
  unfold address?
  rw [Option.bind_eq_some_iff]
  constructor
  · rintro ⟨family, known, taken⟩
    obtain rfl := family_take? taken
    exact ⟨known, taken⟩
  · rintro ⟨known, taken⟩
    exact ⟨address.family, known, taken⟩

theorem toOption_make {address : IpAddress} {length : Nat} :
    (Prefix.make address length).toOption = some destination ↔
      destination.address = address ∧ destination.length = length := by
  rw [← Prefix.make_eq_ok_iff]
  cases Prefix.make address length <;> simp [Except.toOption]

/-- Addresses of a family that is known are read as of that family. -/
theorem address?_of_family {number : UInt8} {family : Family}
    (known : family? number = some family) :
    (address? · number) = IpAddress.take? family := by
  funext value
  rw [address?, known, Option.bind_some]

theorem lastSays_none_of_absent {α : Type} {type : UInt16}
    {read : List UInt8 → Option α} {attributes : List Attribute}
    (absent : ∀ entry ∈ attributes, entry.type ≠ type) :
    LastSays type read attributes none := by
  refine .nothing ?_
  rintro last ⟨before, after, rfl, own, -⟩
  exact absurd own
    (absent last (List.mem_append_right before List.mem_cons_self))

theorem assumedFamily_of_known {number : UInt8} {family : Family}
    (known : family? number = some family) :
    assumedFamily number = family := by
  obtain rfl := family?_eq_some_iff.1 known
  cases family <;> rfl

theorem eq_everything {family : Family} (length : destination.length = 0)
    (address : destination.address = IpAddress.unspecified family) :
    destination = .everything family := by
  obtain ⟨_, _, _⟩ := destination
  subst length address
  rfl

/-- The destination of what is read, by what the attribute says. -/
theorem routeDestination?_eq {message : RouteMessage} :
    routeDestination? message =
      match message.destination with
      | some address =>
          (Prefix.make address
            message.header.destinationLength.toNat).toOption
      | none => some (.everything (assumedFamily message.header.family)) := by
  unfold routeDestination? assumedFamily
  cases message.destination with
  | some address => rfl
  | none => dsimp only; split <;> rfl

theorem destination_ofPayload {said : Option IpAddress} :
    (RouteMessage.ofPayload payload).destination = said ↔
      LastSays RouteAttribute.destination
        (address? · (routeHeaderIn payload).family)
        (routeAttributes payload) said := by
  rw [lastSays_iff]
  rfl

/-- A destination is made from what can be read as the payload names it. -/
theorem named_or_invented
    (made : routeDestination? (.ofPayload payload) = some destination) :
    Names payload destination ∨ Invented payload destination := by
  rw [routeDestination?_eq] at made
  cases said : (RouteMessage.ofPayload payload).destination with
  | some address =>
      rw [said] at made
      obtain ⟨rfl, length⟩ := toOption_make.1 made
      obtain ⟨isLast, reads⟩ := destination_ofPayload.1 said
      obtain ⟨known, taken⟩ := address?_eq_some_iff.1 reads
      exact .inl ⟨known, length, .inl (.value isLast taken)⟩
  | none =>
      rw [said] at made
      cases made
      -- Without a reason to invent it, all addresses are what is named.
      by_cases reason : family? (routeHeaderIn payload).family = none ∨
        (routeHeaderIn payload).destinationLength ≠ 0 ∨
        ∃ entry ∈ routeAttributes payload,
          entry.type = RouteAttribute.destination
      · exact .inr ⟨rfl, destination_ofPayload.1 said, reason⟩
      · simp only [not_or, not_not, not_exists, not_and] at reason
        obtain ⟨known, zero, absent⟩ := reason
        obtain ⟨family, known⟩ := Option.ne_none_iff_exists'.1 known
        left
        exact {
          family := by
            rw [known]
            show _ = some (IpAddress.family (.unspecified _))
            rw [IpAddress.family_unspecified]
            exact congrArg some (assumedFamily_of_known known).symm
          length := by
            rw [zero]
            rfl
          address := by
            refine .inr ⟨absent, rfl, ?_⟩
            show IpAddress.unspecified _ =
              .unspecified (IpAddress.family (.unspecified _))
            rw [IpAddress.family_unspecified] }

theorem routeDestination?_of_names (names : Names payload destination) :
    routeDestination? (.ofPayload payload) = some destination := by
  obtain ⟨known, length, told | ⟨absent, zero, address⟩⟩ := names
  · rw [← address?_of_family known] at told
    rw [routeDestination?_eq, destination_ofPayload.2 told]
    exact toOption_make.2 ⟨rfl, length⟩
  · have untold := destination_ofPayload.2 (lastSays_none_of_absent absent)
    rw [routeDestination?_eq, untold]
    refine congrArg some (eq_everything zero (address.trans ?_)).symm
    exact congrArg _ (assumedFamily_of_known known).symm

theorem routeDestination?_of_invented
    (invented : Invented payload destination) :
    routeDestination? (.ofPayload payload) = some destination := by
  rw [routeDestination?_eq, destination_ofPayload.2 invented.unread,
    invented.everything]
  rfl

/-- What is invented is never what the payload names. -/
theorem Invented.not_names {other : Prefix}
    (invented : Invented payload destination) : ¬ Names payload other := by
  rintro ⟨known, length, told | ⟨absent, zero, -⟩⟩
  · rw [← address?_of_family known] at told
    have both := (lastSays_iff.1 told).symm.trans
      (lastSays_iff.1 invented.unread)
    cases both
  · rcases invented.reason with unknown | long | ⟨entry, member, own⟩
    · rw [known] at unknown
      cases unknown
    · exact long (UInt8.toNat_inj.1 (length.symm.trans zero))
    · exact absent entry member own

theorem routeIn?_eq_some_iff {message : RouteMessage} {entry : RouteEntry} :
    routeIn? message = some entry ↔
      message.table = mainTable.toUInt32 ∧
        (∃ index, message.outputInterface = some index ∧
          entry.interface = InterfaceId.ofIndex index) ∧
        entry.metric = message.priority.getD 0 ∧
        routeDestination? message = some entry.destination := by
  unfold routeIn?
  obtain ⟨interface, destination, metric⟩ := entry
  by_cases main : message.table = mainTable.toUInt32
  · rw [guard, if_pos main]
    simp only [Option.bind_eq_bind, Option.pure_def, Option.bind_some,
      Option.bind_eq_some_iff, Option.some.injEq, RouteEntry.mk.injEq]
    constructor
    · rintro ⟨index, output, _, made, rfl, rfl, rfl⟩
      exact ⟨main, ⟨index, output, rfl⟩, rfl, made⟩
    · rintro ⟨-, ⟨index, output, rfl⟩, rfl, made⟩
      exact ⟨index, output, destination, made, rfl, rfl, rfl⟩
  · rw [guard, if_neg main]
    exact ⟨nofun, fun all => absurd all.1 main⟩

/-- An answer gives the entry that is read from it. -/
theorem isRouteIn_iff {answer : Answer} {entry : RouteEntry} :
    IsRouteIn answer entry ↔
      answer.type = PacketType.newRoute ∧
        ∃ message, RouteMessage.read answer.payload = .ok message ∧
          routeIn? message = some entry := by
  constructor
  · rintro ⟨type, complete, table, ⟨index, output, interface⟩,
      ⟨said, priority, metric⟩, destination⟩
    refine ⟨type, _, RouteMessage.read_eq_ok_iff.2 ⟨complete, rfl⟩, ?_⟩
    refine routeIn?_eq_some_iff.2 ⟨isInMainTable_iff.1 table,
      ⟨index, lastSays_iff.1 output, interface⟩, ?_,
      destination.elim routeDestination?_of_names
        routeDestination?_of_invented⟩
    rw [metric, ← lastSays_iff.1 priority]
    rfl
  · rintro ⟨type, message, read, made⟩
    obtain ⟨complete, rfl⟩ := RouteMessage.read_eq_ok_iff.1 read
    obtain ⟨table, ⟨index, output, interface⟩, metric, destination⟩ :=
      routeIn?_eq_some_iff.1 made
    exact ⟨type, complete, isInMainTable_iff.2 table,
      ⟨index, lastSays_iff.2 output, interface⟩,
      ⟨_, lastSays_iff.2 rfl, metric⟩, named_or_invented destination⟩

end Reading

/-! ## Listings -/

/--
Every answer gives one entry or none, and the entries are in the order of the
answers.
-/
inductive IsListing {Entry : Type} (gives : Answer → Entry → Prop) :
    List Answer → List Entry → Prop
  | nil : IsListing gives [] []
  | entry {answer : Answer} {entry : Entry} {answers : List Answer}
      {entries : List Entry} (given : gives answer entry)
      (rest : IsListing gives answers entries) :
      IsListing gives (answer :: answers) (entry :: entries)
  | silent {answer : Answer} {answers : List Answer} {entries : List Entry}
      (nothing : ∀ entry, ¬ gives answer entry)
      (rest : IsListing gives answers entries) :
      IsListing gives (answer :: answers) entries

section Entries

variable {Message Entry : Type} {type : UInt16}
  {read : List UInt8 → Except Error Message}
  {entryIn? : Message → Option Entry} {answers : List Answer}

/-- The entry that is read from an answer of a type. -/
def ReadsAs (type : UInt16) (read : List UInt8 → Except Error Message)
    (entryIn? : Message → Option Entry) (answer : Answer) (entry : Entry) :
    Prop :=
  answer.type = type ∧ ∃ message,
    read answer.payload = .ok message ∧ entryIn? message = some entry

theorem isListing_entries {listed : List Entry}
    (translated : entries type read entryIn? answers = .ok listed) :
    IsListing (ReadsAs type read entryIn?) answers listed := by
  induction answers generalizing listed with
  | nil =>
      cases translated
      exact .nil
  | cons answer answers ih =>
      rw [entries] at translated
      split at translated
      · next other =>
          exact .silent (fun _ given => other given.1) (ih translated)
      · next own =>
          obtain ⟨message, isRead, onward⟩ := bind_eq_ok_iff.1 translated
          obtain ⟨more, others, whole⟩ := bind_eq_ok_iff.1 onward
          cases whole
          cases made : entryIn? message with
          | some entry =>
              exact .entry ⟨not_not.1 own, message, isRead, made⟩ (ih others)
          | none =>
              refine .silent ?_ (ih others)
              rintro entry ⟨-, other, alsoRead, given⟩
              rw [isRead] at alsoRead
              cases alsoRead
              rw [made] at given
              cases given

/-- A listing fails only if an answer of its type cannot be read. -/
theorem exists_entries_iff :
    (∃ listed, entries type read entryIn? answers = .ok listed) ↔
      ∀ answer ∈ answers, answer.type = type →
        ∃ message, read answer.payload = .ok message := by
  induction answers with
  | nil => exact ⟨fun _ => nofun, fun _ => ⟨[], rfl⟩⟩
  | cons answer answers ih =>
      rw [List.forall_mem_cons, ← ih, entries]
      split
      · next other => exact ⟨fun all => ⟨(absurd · other), all⟩, And.right⟩
      · next own =>
          constructor
          · rintro ⟨listed, translated⟩
            obtain ⟨message, isRead, onward⟩ := bind_eq_ok_iff.1 translated
            obtain ⟨more, others, -⟩ := bind_eq_ok_iff.1 onward
            exact ⟨fun _ => ⟨message, isRead⟩, more, others⟩
          · rintro ⟨first, more, others⟩
            obtain ⟨message, isRead⟩ := first (not_not.1 own)
            exact ⟨_, bind_eq_ok_iff.2
              ⟨message, isRead, bind_eq_ok_iff.2 ⟨more, others, rfl⟩⟩⟩

end Entries

/--
What the kernel answers decides what is listed.  The listing succeeds if every
answer about a route is as long as its header; then each answer gives the
entry that it names, or one that is invented where the answer's own cannot be
read.  A pass that removes routes asks to delete what is listed.
-/
theorem routes_listed {connection : Connection} {answers : List Answer}
    (dumped : (connection.dump listRoutesRequest).1 = .ok answers) :
    let listing := (kernelTable.routes.run connection).1
    ((∃ entries, listing = .ok entries) ↔
      ∀ answer ∈ answers, answer.type = PacketType.newRoute →
        RouteHeader.size ≤ answer.payload.length) ∧
    (∀ entries, listing = .ok entries →
      IsListing IsRouteIn answers entries) ∧
    ∀ interface, ∃ outcomes,
      outcomes.length = (Network.ownRoutes interface listing).length ∧
      ((Network.removeAllRoutes (kernelTable.recorded id) interface).run
          { world := connection, journal := [] }).2.journal =
        .routesListed listing ::
          List.zipWith .routeDeleted (Network.ownRoutes interface listing)
            outcomes := by
  have translated : (kernelTable.routes.run connection).1 =
      routeEntries answers := by
    show (list listRoutesRequest routeEntries connection).1 = _
    unfold list
    generalize connection.dump listRoutesRequest = dump at dumped
    obtain ⟨outcome, later⟩ := dump
    subst dumped
    rfl
  have same : ReadsAs PacketType.newRoute RouteMessage.read routeIn? =
      IsRouteIn := by
    funext answer entry
    exact propext isRouteIn_iff.symm
  refine ⟨?_, ?_, fun interface => ?_⟩
  · rw [translated, routeEntries, exists_entries_iff]
    simp only [RouteMessage.read_eq_ok_iff, exists_and_left,
      exists_eq, and_true]
  · rw [translated]
    intro entries done
    exact same ▸ isListing_entries done
  · exact Network.journal_removeAllRoutes id kernelTable interface
      { world := connection, journal := [] }

/-! ## A route of another family -/

/-- A route by label: neither family number nor attribute is an address. -/
def labelledRoute : List UInt8 :=
  [28, 20, 0, 0, 254, 4, 253, 1, 0, 0, 0, 0] ++
    Attribute.toOctets ⟨RouteAttribute.destination, [0, 6, 65, 0]⟩ ++
    Attribute.toOctets ⟨RouteAttribute.outputInterface, [3, 0, 0, 0]⟩

def labelled : List (List Packet) :=
  [[.of PacketType.newRoute 1 labelledRoute,
    .of PacketType.done 1 [0, 0, 0, 0]]]

theorem routes_listed_labelled :
    let connection := freshConnection.hearing labelled []
    let answers := [⟨PacketType.newRoute, labelledRoute⟩]
    (connection.dump listRoutesRequest).1 = .ok answers ∧
      ∃ entries, (kernelTable.routes.run connection).1 = .ok entries ∧
        IsListing IsRouteIn answers entries := by
  intro connection answers
  have dumped : (connection.dump listRoutesRequest).1 = .ok answers := by
    decide +kernel
  obtain ⟨succeeds, lists, -⟩ := routes_listed dumped
  obtain ⟨entries, listed⟩ := succeeds.2 (by decide)
  exact ⟨dumped, entries, listed, lists entries listed⟩

/--
A route by label is listed as the IPv4 default route of its interface, and a
pass that removes the routes of that interface asks the kernel to delete it.
-/
theorem invented_default_route :
    let connection := freshConnection.hearing labelled []
    let interface := InterfaceId.ofIndex 3
    let entry : RouteEntry := ⟨interface, .everything .ipv4, 0⟩
    let removal := (Network.removeAllRoutes (kernelTable.recorded id)
      interface).run { world := connection, journal := [] }
    family? (routeHeaderIn labelledRoute).family = none ∧
      (routeHeaderIn labelledRoute).destinationLength ≠ 0 ∧
      ¬ Names labelledRoute entry.destination ∧
      (kernelTable.routes.run connection).1 = .ok [entry] ∧
      (∃ outcome, removal.2.journal =
        [.routesListed (.ok [entry]), .routeDeleted entry outcome]) ∧
      removal.2.world.sent.getLast? = some
        { deleteRouteRequest entry 3 with
          sequence := 2, port := 4242 }.toOctets := by
  intro connection interface entry removal
  have unknown : family? (routeHeaderIn labelledRoute).family = none := by
    decide
  have listed : (kernelTable.routes.run connection).1 = .ok [entry] := by
    decide +kernel
  have sent : removal.2.world.sent.getLast? = some
      { deleteRouteRequest entry 3 with
        sequence := 2, port := 4242 }.toOctets := by
    decide +kernel
  refine ⟨unknown, by decide, ?_, listed, ?_, sent⟩
  · intro names
    rw [names.family] at unknown
    cases unknown
  · obtain ⟨outcomes, same, asked⟩ :=
      Network.journal_removeAllRoutes id kernelTable interface
        { world := connection, journal := [] }
    rw [listed] at same asked
    obtain ⟨outcome, rfl⟩ := List.length_eq_one_iff.1 same
    exact ⟨outcome, asked⟩

end Tunnel.Netlink
