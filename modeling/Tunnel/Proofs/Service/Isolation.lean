import Tunnel.Proofs.Service.Bypass

/-!
# Adapters side by side

The adapters of a service share the tables, the observer and its one
subscription.  Where a call of the tables decides about no entry but its own,
a call of the service that names an adapter leaves every other adapter what it
has: no driver is called with its handle, its entries stay in the tables, it is
known as it was, and it is watched if it was (`call_leaves_others`).
-/

namespace Tunnel

/-! ## What other adapters have -/

/-- The handle that a driver is called with. -/
def Driver.Event.handle? : Driver.Event → Option Handle
  | .created _ _ _ | .opened _ _ => none
  | .closed handle | .stateSet handle _ _ | .stateRead handle _
  | .configured handle _ _ | .configurationRead handle _ _
  | .identified handle _ | .loggingSet handle _ _ => some handle

def Backend.Event.handle? : Backend.Event → Option Handle
  | .driver _ event => event.handle?
  | _ => none

/-- The calls of drivers with a handle. -/
def callsWith (handle : Handle) (journal : List Backend.Event) :
    List Backend.Event :=
  journal.filter (·.handle? = some handle)

/-- A journal has no more calls with a handle if none was made. -/
theorem callsWith_append_iff {handle : Handle}
    {journal calls : List Backend.Event} :
    callsWith handle (journal ++ calls) = callsWith handle journal ↔
      ∀ call ∈ calls, call.handle? ≠ some handle := by
  rw [callsWith, callsWith, List.filter_append, List.append_right_eq_self,
    List.filter_eq_nil_iff]
  exact forall₂_congr fun call _ => not_congr decide_eq_true_iff

/-- An entry of one of the tables. -/
inductive TableEntry
  | address (entry : AddressEntry)
  | route (entry : RouteEntry)
deriving DecidableEq

def TableEntry.interface : TableEntry → InterfaceId
  | .address entry => entry.interface
  | .route entry => entry.interface

section Elsewhere

variable {World α : Type} (entries : World → Set TableEntry)

/-- Whatever it answers, an operation decides about no other entry. -/
def ChangesOnly (entry : TableEntry) (operation : StateM World α) : Prop :=
  ∀ world other, other ≠ entry →
    (other ∈ entries (operation.run world).2 ↔ other ∈ entries world)

/-- Tables that are sets: a call adds its entry, deletes it, or fails to. -/
structure RouteTable.ChangesOwn (table : RouteTable (StateM World)) :
    Prop where
  addAddress : ∀ interface network,
    ChangesOnly entries (.address { interface, network })
      (table.addAddress interface network)
  addresses : Leaves entries table.addresses fun _ => True
  deleteAddress : ∀ entry,
    ChangesOnly entries (.address entry) (table.deleteAddress entry)
  addRoute : ∀ interface destination,
    ChangesOnly entries (.route { interface, destination, metric := 0 })
      (table.addRoute interface destination)
  routes : Leaves entries table.routes fun _ => True
  deleteRoute : ∀ entry,
    ChangesOnly entries (.route entry) (table.deleteRoute entry)

variable (interface : InterfaceId)

/-- The entries of other interfaces. -/
def elsewhere (world : World) : Set TableEntry :=
  {entry | entry ∈ entries world ∧ entry.interface ≠ interface}

variable {entries interface} {operation : StateM World α}
  {property : α → Prop}

theorem ChangesOnly.leaves {entry : TableEntry}
    (changes : ChangesOnly entries entry operation)
    (own : entry.interface = interface) :
    Leaves (elsewhere entries interface) operation fun _ => True := by
  refine fun world => ⟨trivial, Set.ext fun other => ?_⟩
  refine and_congr_left fun foreign => changes world other ?_
  rintro rfl
  exact foreign own

theorem Leaves.apart (leaves : Leaves entries operation property) :
    Leaves (elsewhere entries interface) operation property := by
  intro world
  obtain ⟨holds, same⟩ := leaves world
  unfold elsewhere
  rw [same]
  exact ⟨holds, rfl⟩

variable (entries interface) (handle : Handle)

/-- What an adapter of another handle and another interface has. -/
def surroundings (recorded : Recorded World Backend.Event) :
    List Backend.Event × Set TableEntry :=
  (callsWith handle recorded.journal,
    elsewhere entries interface recorded.world)

variable {entries interface handle}

theorem Leaves.record {event : α → Backend.Event}
    (leaves : Leaves (elsewhere entries interface) operation property)
    (quiet : ∀ answer, (event answer).handle? ≠ some handle) :
    Leaves (surroundings entries interface handle) (record event operation)
      property := by
  intro recorded
  obtain ⟨holds, same⟩ := leaves recorded.world
  refine ⟨holds, Prod.ext (callsWith_append_iff.2 fun call member => ?_) same⟩
  rw [List.mem_singleton.1 member]
  exact quiet _

theorem Leaves.aside
    (leaves : Leaves (elsewhere entries interface) operation property) :
    Leaves (surroundings entries interface handle) (aside operation)
      property :=
  fun recorded => ⟨(leaves recorded.world).1,
    Prod.ext rfl (leaves recorded.world).2⟩

end Elsewhere

/--
Calls of the tables decide about their own entries only.  What a driver is
asked for one handle, what the monitor is asked and what goes on beside a call
leave the entries of other interfaces alone.  The driver knows the handle by
no other interface.
-/
structure Backend.KeepsApart {World : Type} (backend : Backend (StateM World))
    (entries : World → Set TableEntry) (driver : DriverId) (handle : Handle)
    (interface : InterfaceId) : Prop where
  configures : ∀ image, Leaves (elsewhere entries interface)
    ((backend.driver driver).setConfiguration handle image) fun _ => True
  switches : ∀ state, Leaves (elsewhere entries interface)
    ((backend.driver driver).setState handle state) fun _ => True
  reads : Leaves (elsewhere entries interface)
    ((backend.driver driver).state handle) fun _ => True
  identifies : Leaves (elsewhere entries interface)
    ((backend.driver driver).identifier handle)
    fun answer => ∀ found, answer = .ok found → found = interface
  table : backend.table.ChangesOwn entries
  subscribes : Leaves (elsewhere entries interface) backend.monitor.subscribe
    fun _ => True
  looks : Leaves (elsewhere entries interface)
    (backend.monitor.status interface) fun _ => True
  beside : ∀ observer, Leaves (elsewhere entries interface)
    (backend.meanwhile observer) observer.Follows

section KeepsApart

variable {World : Type} {backend : Backend (StateM World)}
  {entries : World → Set TableEntry} {driver : DriverId}
  {handle otherHandle : Handle} {interface : InterfaceId}

theorem Backend.KeepsApart.bypasses
    (apart : backend.KeepsApart entries driver handle interface) :
    backend.Bypasses (elsewhere entries interface) driver handle interface
    where
  configures := apart.configures
  switches := apart.switches
  reads := apart.reads
  identifies := apart.identifies
  addsAddress network := (apart.table.addAddress interface network).leaves rfl
  listsAddresses := apart.table.addresses.apart
  deletesAddress entry own := (apart.table.deleteAddress entry).leaves own
  addsRoute destination :=
    (apart.table.addRoute interface destination).leaves rfl
  listsRoutes := apart.table.routes.apart
  deletesRoute entry own := (apart.table.deleteRoute entry).leaves own
  subscribes := apart.subscribes
  looks := apart.looks
  beside := apart.beside

/-- A journal does not get calls with any other handle. -/
theorem Backend.Bypasses.recorded
    (bypasses : backend.Bypasses (elsewhere entries interface) driver handle
      interface)
    (differ : handle ≠ otherHandle) :
    backend.recorded.Bypasses (surroundings entries interface otherHandle)
      driver handle interface := by
  have own : some handle ≠ some otherHandle := fun same =>
    differ (Option.some.inj same)
  exact
    { configures := fun image => (bypasses.configures image).record
        fun _ => own
      switches := fun state => (bypasses.switches state).record fun _ => own
      reads := bypasses.reads.record fun _ => own
      identifies := bypasses.identifies.record fun _ => own
      addsAddress := fun network => (bypasses.addsAddress network).record
        fun _ => nofun
      listsAddresses := bypasses.listsAddresses.record fun _ => nofun
      deletesAddress := fun entry same =>
        (bypasses.deletesAddress entry same).record fun _ => nofun
      addsRoute := fun destination =>
        (bypasses.addsRoute destination).record fun _ => nofun
      listsRoutes := bypasses.listsRoutes.record fun _ => nofun
      deletesRoute := fun entry same =>
        (bypasses.deletesRoute entry same).record fun _ => nofun
      subscribes := bypasses.subscribes.record fun _ => nofun
      looks := bypasses.looks.record fun _ => nofun
      beside := fun observer => (bypasses.beside observer).aside }

end KeepsApart

namespace Service

/--
A call that names an adapter of a service that has been served, and another
adapter with a handle of its own.  However the call ends, no driver was called
with the handle of the other adapter, which is known as it was.  The entries
of all interfaces but that of the adapter stay, and these are watched if they
were; of one that is, the consumer has not been taken away.
-/
theorem call_leaves_others {World : Type} {backend : Backend (StateM World)}
    {entries : World → Set TableEntry} {known other : KnownAdapter}
    {handle otherHandle : Handle} {interface : InterfaceId}
    (apart : backend.KeepsApart entries known.driver handle interface)
    (start : World) (moves : List Move) {name otherName : String}
    (found : ((serve backend.recorded {} moves).run
      { world := start, journal := [] }).1.1.find? name = some known)
    (otherFound : ((serve backend.recorded {} moves).run
      { world := start, journal := [] }).1.1.find? otherName = some other)
    (has : known.adapter.handle = some handle)
    (otherHas : other.adapter.handle = some otherHandle)
    (differ : handle ≠ otherHandle) {method : Method}
    (names : method.namesAdapter = true) {arguments : Arguments}
    (named : required arguments adapterArgument = .ok name) :
    let reached := (serve backend.recorded {} moves).run
      { world := start, journal := [] }
    let service := reached.1.1
    let now := reached.2
    let result :=
      (service.dispatch backend.recorded method.name arguments).run now
    (∃ calls, result.2.journal = now.journal ++ calls ∧
        ∀ call ∈ calls, call.handle? ≠ some otherHandle) ∧
      result.1.1.find? otherName = some other ∧
      (∀ entry : TableEntry, entry.interface ≠ interface →
        (entry ∈ entries result.2.world ↔ entry ∈ entries now.world)) ∧
      ∀ another, another ≠ interface →
        (another ∈ result.1.1.observer.watched ↔
          another ∈ service.observer.watched) ∧
        (another ∈ service.observer.watched →
          result.1.1.observer.stored.isSome = true) := by
  intro reached service now result
  have paced : backend.IsPaced := fun observer world =>
    (apart.beside observer world).1
  -- One name for both would be one adapter with two handles.
  have distinct : otherName ≠ name := by
    rintro rfl
    rw [found, Option.some.injEq] at otherFound
    rw [otherFound, otherHas, Option.some.injEq] at has
    exact differ has.symm
  have tidy : service.observer.IsTidy :=
    Observer.isUpkept_isTidy.serve paced.recorded Observer.isTidy_empty moves
      { world := start, journal := [] }
  have stays : result.1.1.observer.IsTidy :=
    Observer.isUpkept_isTidy.dispatch paced.recorded tidy method.name
      arguments now
  have bypassed := Backend.Bypasses.call found has
    (apart.bypasses.recorded differ) names named now
  have called : service.dispatch backend.recorded method.name arguments =
      service.call backend.recorded arguments method := by
    unfold dispatch
    rw [Method.ofName_name]
  rw [← called] at bypassed
  obtain ⟨agrees, same⟩ := bypassed
  have sound : service.IsSound := (isServed_serve backend start moves).2.sound
  obtain ⟨calls, grown, -⟩ := settles_dispatch sound method.name arguments now
  have sameCalls := congrArg Prod.fst same
  have sameEntries := congrArg Prod.snd same
  dsimp only [surroundings] at sameCalls
  rw [grown, callsWith_append_iff] at sameCalls
  have sameOther := (agrees.adapters otherName distinct).trans otherFound
  refine ⟨⟨calls, grown, sameCalls⟩, sameOther, fun entry foreign => ?_,
    fun another foreign => ?_⟩
  · have inBoth := Set.ext_iff.1 sameEntries entry
    exact ⟨fun member => (inBoth.1 ⟨member, foreign⟩).1,
      fun member => (inBoth.2 ⟨member, foreign⟩).1⟩
  · have watched := agrees.watched another foreign
    exact ⟨watched, fun member =>
      stays.stored.2 (List.ne_nil_of_mem (watched.2 member))⟩

/-- Two adapters over tables that are lists; the first is of handle 1. -/
def neighbours : Backend (StateM (List AddressEntry × List RouteEntry)) :=
  { listing with
    driver := fun driver =>
      { listing.driver driver with
        openExisting := fun name =>
          return .ok (if name = "wg0" then ⟨1⟩ else ⟨2⟩)
        identifier := fun handle => return .ok (⟨handle.number.toUInt64⟩) } }

/-- What is listed in one of the tables. -/
def listed (world : List AddressEntry × List RouteEntry) : Set TableEntry :=
  {entry | match entry with
    | .address entry => entry ∈ world.1
    | .route entry => entry ∈ world.2}

section Rows

variable {Entry : Type} (wrap : Entry → TableEntry) {entry other : Entry}
  {entries : List Entry}

theorem mem_append_iff_of_ne (differs : wrap other ≠ wrap entry) :
    other ∈ entries ++ [entry] ↔ other ∈ entries :=
  List.mem_append.trans (or_iff_left fun added =>
    differs (congrArg wrap (List.mem_singleton.1 added)))

theorem mem_filter_iff_of_ne [DecidableEq Entry]
    (differs : wrap other ≠ wrap entry) :
    other ∈ entries.filter (· != entry) ↔ other ∈ entries :=
  List.mem_filter.trans (and_iff_left
    (bne_iff_ne.2 fun same => differs (congrArg wrap same)))

end Rows

theorem changesOwn_neighbours : neighbours.table.ChangesOwn listed where
  addAddress _ _ _ other differs := by
    cases other with
    | address entry => exact mem_append_iff_of_ne .address differs
    | route entry => exact Iff.rfl
  addresses _ := ⟨trivial, rfl⟩
  deleteAddress _ _ other differs := by
    cases other with
    | address entry => exact mem_filter_iff_of_ne .address differs
    | route entry => exact Iff.rfl
  addRoute _ _ _ other differs := by
    cases other with
    | address entry => exact Iff.rfl
    | route entry => exact mem_append_iff_of_ne .route differs
  routes _ := ⟨trivial, rfl⟩
  deleteRoute _ _ other differs := by
    cases other with
    | address entry => exact Iff.rfl
    | route entry => exact mem_filter_iff_of_ne .route differs

theorem keepsApart_neighbours :
    neighbours.KeepsApart listed ⟨0⟩ ⟨1⟩ ⟨1⟩ where
  configures _ := leaves_pure trivial
  switches _ := leaves_pure trivial
  reads := leaves_pure trivial
  identifies := leaves_pure fun _ same => (Except.ok.inj same).symm
  table := changesOwn_neighbours
  subscribes := leaves_pure trivial
  looks := leaves_pure trivial
  beside _ := leaves_pure ⟨[], nofun, rfl⟩

/-- Set up both adapters and connect the second one. -/
def sideBySide : List Move :=
  [.call "nativeInit" [],
    .call "setupTunnel" [(adapterArgument, .text "wg0")],
    .call "setupTunnel" [(adapterArgument, .text "wg1")],
    .call "connect"
      [(adapterArgument, .text "wg1"), (documentArgument, .text "")]]

theorem call_leaves_others_neighbours :
    let reached := (serve neighbours.recorded {} sideBySide).run
      { world := stock, journal := [] }
    let result := (reached.1.1.dispatch neighbours.recorded "disconnect"
      [(adapterArgument, .text "wg0")]).run reached.2
    let other : KnownAdapter :=
      { driver := ⟨0⟩
        adapter := { name := "wg1", handle := some ⟨2⟩, applied := some {} } }
    neighbours.KeepsApart listed ⟨0⟩ ⟨1⟩ ⟨1⟩ ∧
      reached.1.1.find? "wg1" = some other ∧
      (∃ calls, result.2.journal = reached.2.journal ++ calls ∧
        ∀ call ∈ calls, call.handle? ≠ some ⟨2⟩) ∧
      result.1.1.find? "wg1" = some other ∧
      (∀ entry : TableEntry, entry.interface ≠ ⟨1⟩ →
        (entry ∈ listed result.2.world ↔ entry ∈ listed reached.2.world)) ∧
      reached.1.1.observer.watched = [⟨1⟩, ⟨2⟩] ∧
      ⟨2⟩ ∈ result.1.1.observer.watched ∧
      result.1.1.observer.stored.isSome = true := by
  intro reached result other
  have found : reached.1.1.find? "wg0" = some
      { driver := ⟨0⟩, adapter := Adapter.ofHandle "wg0" ⟨1⟩ } := rfl
  have otherFound : reached.1.1.find? "wg1" = some other := rfl
  have watched : reached.1.1.observer.watched = [⟨1⟩, ⟨2⟩] := rfl
  obtain ⟨calls, known, entries, others⟩ :=
    @call_leaves_others _ _ _ _ _ ⟨1⟩ ⟨2⟩ ⟨1⟩ keepsApart_neighbours stock
      sideBySide "wg0" "wg1" found otherFound rfl rfl (by decide)
      .disconnect rfl [(adapterArgument, .text "wg0")] rfl
  obtain ⟨still, kept⟩ := others ⟨2⟩ (by decide)
  have member : ⟨2⟩ ∈ reached.1.1.observer.watched := by
    rw [watched]
    decide
  exact ⟨keepsApart_neighbours, otherFound, calls, known, entries, watched,
    still.2 member, kept member⟩

end Service

end Tunnel
