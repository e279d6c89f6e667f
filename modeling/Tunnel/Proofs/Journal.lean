import Tunnel.Service.Basic

/-!
# Journals

Drivers, tables and monitors answer as they like, and another time otherwise.
What a service asks of them is said by a journal: every call is written down
with its answer.  For any backend there is one that answers alike and keeps a
journal (`Backend.recorded`), so what is proved of all journals holds however
a backend behaves.

`Yields` says what an operation answers and what it adds to the journal,
whatever has gone before.  Operations in a row add their events in a row
(`Yields.bind`), so that each operation has one such law and those that use it
are followed through by these laws alone.
-/

namespace Tunnel

/-! ## Events -/

/-- A call of a driver, with its answer. -/
inductive Driver.Event
  | created (name tunnelType : String) (answer : Except Error Handle)
  | opened (name : String) (answer : Except Error Handle)
  | closed (handle : Handle)
  | stateSet (handle : Handle) (state : AdapterState)
      (answer : Except Error Unit)
  | stateRead (handle : Handle) (answer : Except Error AdapterState)
  | configured (handle : Handle) (image : List UInt8)
      (answer : Except Error Unit)
  | configurationRead (handle : Handle) (buffer : List UInt8)
      (answer : Except Error Nat × List UInt8)
  | identified (handle : Handle) (answer : Except Error InterfaceId)
  | loggingSet (handle : Handle) (state : LogState)
      (answer : Except Error Unit)

/-- A call of the tables, with its answer. -/
inductive RouteTable.Event
  | addressAdded (interface : InterfaceId) (network : Prefix)
      (answer : Except Error Unit)
  | addressesListed (answer : Except Error (List AddressEntry))
  | addressDeleted (entry : AddressEntry) (answer : Except Error Unit)
  | routeAdded (interface : InterfaceId) (destination : Prefix)
      (answer : Except Error Unit)
  | routesListed (answer : Except Error (List RouteEntry))
  | routeDeleted (entry : RouteEntry) (answer : Except Error Unit)

/-- A call of the monitor, with its answer. -/
inductive Monitor.Event
  | subscribed (answer : Except Error Nat)
  | statusRead (interface : InterfaceId) (answer : Except Error OperStatus)

/-- A call of what a service works with, with its answer. -/
inductive Backend.Event
  | driverLoaded (answer : Except Error DriverId)
  | driver (driver : DriverId) (event : Driver.Event)
  | table (event : RouteTable.Event)
  | monitor (event : Monitor.Event)

/-! ## Recording -/

/-- What comes next in a row is run in the world that comes first leaves. -/
theorem run_bind {World α β : Type} (first : StateM World α)
    (next : α → StateM World β) (world : World) :
    (first >>= next).run world =
      (next (first.run world).1).run (first.run world).2 :=
  rfl

/-- A world with a journal of what was asked of it. -/
structure Recorded (World Event : Type) where
  world : World
  journal : List Event

section Recording

variable {World Event α : Type}

/-- Work with the world and leave the journal alone. -/
def aside (operation : StateM World α) : StateM (Recorded World Event) α :=
  modifyGet fun recorded =>
    let (answer, world) := operation.run recorded.world
    (answer, { recorded with world })

/-- Work with the world and write down what it answers. -/
def record (event : α → Event) (operation : StateM World α) :
    StateM (Recorded World Event) α :=
  modifyGet fun recorded =>
    let (answer, world) := operation.run recorded.world
    (answer, { world, journal := recorded.journal ++ [event answer] })

/-- A driver that keeps a journal, in which its events may look different. -/
def Driver.recorded (note : Driver.Event → Event)
    (driver : Driver (StateM World)) :
    Driver (StateM (Recorded World Event)) where
  create name tunnelType :=
    record (note <| .created name tunnelType ·)
      (driver.create name tunnelType)
  openExisting name :=
    record (note <| .opened name ·) (driver.openExisting name)
  close handle := record (fun _ => note (.closed handle)) (driver.close handle)
  setState handle state :=
    record (note <| .stateSet handle state ·) (driver.setState handle state)
  state handle := record (note <| .stateRead handle ·) (driver.state handle)
  setConfiguration handle image :=
    record (note <| .configured handle image ·)
      (driver.setConfiguration handle image)
  configuration handle buffer :=
    record (note <| .configurationRead handle buffer ·)
      (driver.configuration handle buffer)
  identifier handle :=
    record (note <| .identified handle ·) (driver.identifier handle)
  setLogging handle state :=
    record (note <| .loggingSet handle state ·)
      (driver.setLogging handle state)

/-- Tables that keep a journal. -/
def RouteTable.recorded (note : RouteTable.Event → Event)
    (table : RouteTable (StateM World)) :
    RouteTable (StateM (Recorded World Event)) where
  addAddress interface network :=
    record (note <| .addressAdded interface network ·)
      (table.addAddress interface network)
  addresses := record (note <| .addressesListed ·) table.addresses
  deleteAddress entry :=
    record (note <| .addressDeleted entry ·) (table.deleteAddress entry)
  addRoute interface destination :=
    record (note <| .routeAdded interface destination ·)
      (table.addRoute interface destination)
  routes := record (note <| .routesListed ·) table.routes
  deleteRoute entry :=
    record (note <| .routeDeleted entry ·) (table.deleteRoute entry)

/-- A monitor that keeps a journal. -/
def Monitor.recorded (note : Monitor.Event → Event)
    (monitor : Monitor (StateM World)) :
    Monitor (StateM (Recorded World Event)) where
  subscribe := record (note <| .subscribed ·) monitor.subscribe
  status interface :=
    record (note <| .statusRead interface ·) (monitor.status interface)

/--
A backend that keeps a journal of the service's calls.  What consumers do
beside them is not written down.
-/
def Backend.recorded (backend : Backend (StateM World)) :
    Backend (StateM (Recorded World Backend.Event)) where
  loadDriver := record .driverLoaded backend.loadDriver
  driver driver := (backend.driver driver).recorded (.driver driver)
  table := backend.table.recorded .table
  monitor := backend.monitor.recorded .monitor
  entropy := aside backend.entropy
  meanwhile observer := aside (backend.meanwhile observer)

end Recording

/-! ## What an operation adds to a journal -/

section Yields

variable {World Event α β : Type}

/--
Whatever has gone before, what an operation answers and the events that it
adds to the journal have a property.
-/
def Yields (operation : StateM (Recorded World Event) α)
    (property : α → List Event → Prop) : Prop :=
  ∀ before, ∃ events,
    (operation.run before).2.journal = before.journal ++ events ∧
      property (operation.run before).1 events

variable {operation : StateM (Recorded World Event) α}
  {property other : α → List Event → Prop}

theorem yields_pure {value : α} (holds : property value []) :
    Yields (pure value : StateM (Recorded World Event) α) property :=
  fun before => ⟨[], (List.append_nil before.journal).symm, holds⟩

theorem Yields.bind {next : α → StateM (Recorded World Event) β}
    {after : β → List Event → Prop} (first : Yields operation property)
    (follows : ∀ value events, property value events →
      Yields (next value) fun result later => after result (events ++ later)) :
    Yields (operation >>= next) after := by
  intro before
  obtain ⟨events, grown, holds⟩ := first before
  obtain ⟨later, more, result⟩ :=
    follows _ events holds (operation.run before).2
  refine ⟨events ++ later, ?_, result⟩
  rw [grown, List.append_assoc] at more
  exact more

theorem Yields.mono (yields : Yields operation property)
    (weaker : ∀ value events, property value events → other value events) :
    Yields operation other := by
  intro before
  obtain ⟨events, grown, holds⟩ := yields before
  exact ⟨events, grown, weaker _ events holds⟩

theorem record_bind_run (event : α → Event) (operation : StateM World α)
    (next : α → StateM (Recorded World Event) β)
    (before : Recorded World Event) :
    (record event operation >>= next).run before =
      (next (operation.run before.world).1).run
        { world := (operation.run before.world).2
          journal :=
            before.journal ++ [event (operation.run before.world).1] } :=
  rfl

theorem yields_record (event : α → Event) (operation : StateM World α) :
    Yields (record event operation) fun answer events =>
      events = [event answer] :=
  fun _ => ⟨[event _], rfl, rfl⟩

theorem yields_aside (operation : StateM World α) :
    Yields (aside operation : StateM (Recorded World Event) α)
      fun _ events => events = [] :=
  fun before => ⟨[], (List.append_nil before.journal).symm, rfl⟩

end Yields

end Tunnel
