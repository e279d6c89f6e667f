import Tunnel.Proofs.Service.Upkeep
import Tunnel.Proofs.Watch.Publication

/-!
# Disconnecting

An adapter that cannot be brought down is left alone, and so is everything
else.  Once it is down nothing stops the call any more: it asks for the
deletion of all addresses and then of all routes of the interface, whatever
the answers are, and stops watching.

A service that has been served is sound (`IsSound`), so the adapter has a
handle, and its observer is tidy: each interface is watched once, and a
consumer is stored exactly while some interface is watched (`IsTidy`).  The
second is kept by whatever the observer does by itself, so by every call.
-/

namespace Tunnel

/-! ## Tidy observers -/

namespace Observer

open Watch

/--
Each interface is watched once, and a consumer is stored exactly while some
interface is.
-/
structure IsTidy (observer : Observer) : Prop where
  once : observer.watched.Nodup
  stored : observer.stored.isSome = true ↔ observer.watched ≠ []

theorem isTidy_empty : IsTidy {} :=
  ⟨List.nodup_nil, iff_of_false Bool.false_ne_true fun some => some rfl⟩

theorem isUpkept_isTidy : IsUpkept IsTidy where
  effect tidy effect :=
    ⟨effect.nodup_watched tidy.once, effect.stored_iff tidy.stored⟩
  reap tidy := ⟨tidy.once, tidy.stored⟩
  congr tidy watched stored _ :=
    ⟨watched ▸ tidy.once, by rw [stored, watched]; exact tidy.stored⟩

/-- What is watched after one interface was stopped. -/
theorem mem_stop {observer : Observer} (tidy : observer.IsTidy)
    {interface other : InterfaceId} :
    other ∈ (observer.stop interface).watched ↔
      other ∈ observer.watched ∧ other ≠ interface := by
  show other ∈ (observer.withdraw interface).watched ↔ _
  rw [withdraw_watched]
  exact tidy.once.mem_erase_iff.trans and_comm

end Observer

/-! ## Tables that are sets -/

/--
The tables of a backend are sets of addresses and of routes, which consumers
leave alone.
-/
structure Backend.KeepsTables {World : Type}
    (backend : Backend (StateM World)) (addresses : World → Set AddressEntry)
    (routes : World → Set RouteEntry) : Prop where
  addressStore : Network.IsStore addresses routes backend.table.addresses
    backend.table.deleteAddress
  routeStore : Network.IsStore routes addresses backend.table.routes
    backend.table.deleteRoute
  beside : ∀ observer world,
    addresses ((backend.meanwhile observer).run world).2 = addresses world ∧
      routes ((backend.meanwhile observer).run world).2 = routes world

theorem Backend.KeepsTables.recorded {World : Type}
    {backend : Backend (StateM World)} {addresses : World → Set AddressEntry}
    {routes : World → Set RouteEntry}
    (keeps : backend.KeepsTables addresses routes) :
    backend.recorded.KeepsTables (fun recorded => addresses recorded.world)
      fun recorded => routes recorded.world where
  addressStore := keeps.addressStore.recorded
    (Backend.Event.table <| .addressesListed ·)
    fun entry answer => .table (.addressDeleted entry answer)
  routeStore := keeps.routeStore.recorded
    (Backend.Event.table <| .routesListed ·)
    fun entry answer => .table (.routeDeleted entry answer)
  beside observer recorded := keeps.beside observer recorded.world

namespace Service

/-! ## Cleaning up -/

/-- What is done once an adapter of an interface is down. -/
def cleanUp {m : Type → Type} [Monad m] (backend : Backend m)
    (service : Service) (interface : InterfaceId) :
    m (Service × Outcome) := do
  let _ ← Network.removeAllAddresses backend.table interface
  let _ ← Network.removeAllRoutes backend.table interface
  let observer ← backend.meanwhile service.observer
  return ({ service with observer := observer.stop interface }, .ok .done)

/--
The calls that clean up after an interface.  The addresses are listed, and
every one of the interface is to be deleted, once each time it is listed and
in that order; then the same is done for the routes, however the tables have
answered.
-/
def IsCleanUp (interface : InterfaceId) (calls : List Backend.Event) : Prop :=
  ∃ addresses gone routes left,
    gone.length = (Network.ownAddresses interface addresses).length ∧
    left.length = (Network.ownRoutes interface routes).length ∧
    calls =
      .table (.addressesListed addresses) ::
        List.zipWith (fun entry answer => .table (.addressDeleted entry answer))
          (Network.ownAddresses interface addresses) gone ++
      .table (.routesListed routes) ::
        List.zipWith (fun entry answer => .table (.routeDeleted entry answer))
          (Network.ownRoutes interface routes) left

section CleanUp

variable {World : Type} {backend : Backend (StateM World)}
  {service : Service} {interface : InterfaceId}

theorem yields_cleanUp :
    Yields (service.cleanUp backend.recorded interface)
      fun _ calls => IsCleanUp interface calls := by
  refine (Network.yields_removeAllAddresses Backend.Event.table backend.table
    interface).bind ?_
  rintro pass _ ⟨addresses, gone, every, rfl⟩
  refine (Network.yields_removeAllRoutes Backend.Event.table backend.table
    interface).bind ?_
  rintro pass _ ⟨routes, left, each, rfl⟩
  refine (yields_aside _).bind ?_
  rintro observer _ rfl
  refine yields_pure ⟨addresses, gone, routes, left, every, each, ?_⟩
  rw [List.append_nil, List.append_nil]

theorem always_cleanUp (paced : backend.IsPaced) :
    Always (service.cleanUp backend interface) fun answer =>
      ∃ observer, service.observer.Follows observer ∧
        answer =
          ({ service with observer := observer.stop interface },
            .ok .done) :=
  always_bind fun _ => always_bind fun _ =>
    (paced service.observer).bind fun observer follows =>
      always_pure ⟨observer, follows, rfl⟩

/-- No entry of the interface is left, and every other entry is. -/
theorem entries_cleanUp {addresses : World → Set AddressEntry}
    {routes : World → Set RouteEntry}
    (keeps : backend.KeepsTables addresses routes) (world : World) :
    let after := ((service.cleanUp backend interface).run world).2
    (∀ entry, entry ∈ addresses after ↔
      entry ∈ addresses world ∧ entry.interface ≠ interface) ∧
    ∀ entry, entry ∈ routes after ↔
      entry ∈ routes world ∧ entry.interface ≠ interface := by
  dsimp only
  unfold cleanUp
  rw [run_bind, run_bind, run_bind]
  generalize first : (Network.removeAllAddresses backend.table
    interface).run world = addressed
  generalize second : (Network.removeAllRoutes backend.table
    interface).run addressed.2 = routed
  obtain ⟨fewer, same⟩ :=
    keeps.addressStore.removeAllAddresses interface world
  obtain ⟨less, kept⟩ :=
    keeps.routeStore.removeAllRoutes interface addressed.2
  obtain ⟨still, quiet⟩ := keeps.beside service.observer routed.2
  rw [first] at fewer same
  rw [second] at less kept
  constructor
  · intro entry
    show entry ∈ addresses ((backend.meanwhile _).run routed.2).2 ↔ _
    rw [still, kept, fewer]
  · intro entry
    show entry ∈ routes ((backend.meanwhile _).run routed.2).2 ↔ _
    rw [quiet, less, same]

end CleanUp

/-! ## One call -/

end Service

section Driver

variable {World : Type} (backend : Backend (StateM World))
  (driver : DriverId) (handle : Handle) (world : World)

/-- How a driver takes it that an adapter is to go down. -/
def Backend.lowering : Except Error Unit × World :=
  ((backend.driver driver).setState handle .down).run world

/-- What a driver reports of an adapter after that. -/
def Backend.reporting : Except Error InterfaceId × World :=
  ((backend.driver driver).identifier handle).run
    (backend.lowering driver handle world).2

end Driver

namespace Service

section Disconnecting

variable {World : Type} {backend : Backend (StateM World)}
  {service : Service} {name : String} {known : KnownAdapter}
  {handle : Handle} {interface : InterfaceId}
  {now : Recorded World Backend.Event}

/-- What is done for an adapter that is known and not closed. -/
theorem disconnect_known {m : Type → Type} [Monad m] {backend : Backend m}
    (found : service.find? name = some known)
    (has : known.adapter.handle = some handle) :
    service.disconnect backend name = (do
      match ← (backend.driver known.driver).setState handle .down with
      | .error error =>
          return (service,
            .error (.causedBy .adapterStateFailed
              "Failed to set adapter state to down" error))
      | .ok () =>
          match ← (backend.driver known.driver).identifier handle with
          | .error _ => return (service, .ok .done)
          | .ok interface => service.cleanUp backend interface) := by
  unfold disconnect Adapter.isValid Adapter.setState Adapter.identifier
    Adapter.withHandle
  rw [found]
  dsimp only
  rw [has]
  rfl

/-- An adapter that does not go down is left alone. -/
theorem run_disconnect_refused {error : Error}
    (found : service.find? name = some known)
    (has : known.adapter.handle = some handle)
    (refused : (backend.lowering known.driver handle now.world).1 =
      .error error) :
    (service.disconnect backend.recorded name).run now =
      ((service, .error (.causedBy .adapterStateFailed
          "Failed to set adapter state to down" error)),
        { world := (backend.lowering known.driver handle now.world).2
          journal := now.journal ++
            [.driver known.driver
              (.stateSet handle .down (.error error))] }) := by
  have lowers : ((backend.recorded.driver known.driver).setState handle
      .down).run now =
    (.error error,
      { world := (backend.lowering known.driver handle now.world).2
        journal := now.journal ++
          [.driver known.driver (.stateSet handle .down (.error error))] })
      := by
    rw [← refused]
    rfl
  rw [disconnect_known found has, run_bind, lowers]
  rfl

/-- An adapter that goes down has its interface cleaned up. -/
theorem run_disconnect_accepted
    (found : service.find? name = some known)
    (has : known.adapter.handle = some handle)
    (lowered : (backend.lowering known.driver handle now.world).1 = .ok ())
    (reported : (backend.reporting known.driver handle now.world).1 =
      .ok interface) :
    (service.disconnect backend.recorded name).run now =
      (service.cleanUp backend.recorded interface).run
        { world := (backend.reporting known.driver handle now.world).2
          journal := now.journal ++
            [.driver known.driver (.stateSet handle .down (.ok ())),
              .driver known.driver
                (.identified handle (.ok interface))] } := by
  have lowers : ((backend.recorded.driver known.driver).setState handle
      .down).run now =
    (.ok (),
      { world := (backend.lowering known.driver handle now.world).2
        journal := now.journal ++
          [.driver known.driver (.stateSet handle .down (.ok ()))] }) := by
    rw [← lowered]
    rfl
  have reports : ((backend.recorded.driver known.driver).identifier
      handle).run
        { world := (backend.lowering known.driver handle now.world).2
          journal := now.journal ++
            [.driver known.driver (.stateSet handle .down (.ok ()))] } =
    (.ok interface,
      { world := (backend.reporting known.driver handle now.world).2
        journal := now.journal ++
          [.driver known.driver (.stateSet handle .down (.ok ()))] ++
          [.driver known.driver
            (.identified handle (.ok interface))] }) := by
    rw [← reported]
    rfl
  rw [disconnect_known found has, run_bind, lowers]
  dsimp only
  rw [run_bind, reports, List.append_assoc]
  rfl

end Disconnecting

/--
Disconnecting an adapter of a service that has been served.  If the driver
refuses, the call fails and nothing else happens.  If it reports an interface,
the call succeeds whatever the tables answer: it has asked for the deletion of
all listed addresses and routes of the interface, and neither watches the
interface any more nor keeps a consumer for nothing.  Where the tables are
sets, exactly the entries of the interface are gone.
-/
theorem disconnect_completes {World : Type}
    {backend : Backend (StateM World)} (paced : backend.IsPaced)
    (start : World) (moves : List Move) {name : String}
    {known : KnownAdapter}
    (found : ((serve backend.recorded {} moves).run
      { world := start, journal := [] }).1.1.find? name = some known) :
    let reached := (serve backend.recorded {} moves).run
      { world := start, journal := [] }
    let service := reached.1.1
    let now := reached.2
    let result := (service.disconnect backend.recorded name).run now
    ∃ handle, known.adapter.handle = some handle ∧
      let lowering := backend.lowering known.driver handle now.world
      let reporting := backend.reporting known.driver handle now.world
      (∀ error, lowering.1 = .error error →
        result =
          ((service, .error (.causedBy .adapterStateFailed
              "Failed to set adapter state to down" error)),
            { world := lowering.2
              journal := now.journal ++
                [.driver known.driver
                  (.stateSet handle .down (.error error))] })) ∧
      ∀ interface, lowering.1 = .ok () → reporting.1 = .ok interface →
        result.1.2 = .ok .done ∧
        (∃ calls, IsCleanUp interface calls ∧
          result.2.journal = now.journal ++
            [.driver known.driver (.stateSet handle .down (.ok ())),
              .driver known.driver (.identified handle (.ok interface))] ++
            calls) ∧
        (∃ observer, result.1.1 = { service with observer } ∧
          (∀ other, other ∈ observer.watched ↔
            other ∈ service.observer.watched ∧ other ≠ interface) ∧
          (observer.watched = [] → observer.stored = none)) ∧
        ∀ addresses routes, backend.KeepsTables addresses routes →
          (∀ entry, entry.interface ≠ interface →
            (entry ∈ addresses reporting.2 ↔
              entry ∈ addresses now.world)) →
          (∀ entry, entry.interface ≠ interface →
            (entry ∈ routes reporting.2 ↔ entry ∈ routes now.world)) →
          (∀ entry, entry ∈ addresses result.2.world ↔
            entry ∈ addresses now.world ∧ entry.interface ≠ interface) ∧
          ∀ entry, entry ∈ routes result.2.world ↔
            entry ∈ routes now.world ∧ entry.interface ≠ interface := by
  intro reached service now result
  have sound : service.IsSound := (isServed_serve backend start moves).2.sound
  have tidy : service.observer.IsTidy :=
    Observer.isUpkept_isTidy.serve paced.recorded Observer.isTidy_empty moves
      { world := start, journal := [] }
  obtain ⟨handle, has, -⟩ := sound.exists_handle found
  refine ⟨handle, has, fun error refused => ?_,
    fun interface lowered reported => ?_⟩
  · exact run_disconnect_refused found has refused
  · have cleaned : result = _ :=
      run_disconnect_accepted found has lowered reported
    rw [cleaned]
    obtain ⟨calls, grown, cleans⟩ :=
      @yields_cleanUp World backend service interface _
    obtain ⟨observer, follows, answer⟩ := always_cleanUp paced.recorded _
    have beside := Observer.isUpkept_isTidy.follows tidy follows
    have stopped : (observer.stop interface).IsTidy :=
      Observer.isUpkept_isTidy.stop beside
    refine ⟨congrArg Prod.snd answer, ⟨calls, cleans, grown⟩,
      ⟨observer.stop interface, congrArg Prod.fst answer, fun other => ?_,
        fun nothing => ?_⟩, ?_⟩
    · rw [Observer.mem_stop beside, follows.kept.1]
    · exact Option.not_isSome_iff_eq_none.1 fun held =>
        stopped.stored.1 held nothing
    · intro addresses routes keeps otherAddresses otherRoutes
      obtain ⟨addressed, routed⟩ := entries_cleanUp keeps.recorded _
      refine ⟨fun entry => (addressed entry).trans ?_,
        fun entry => (routed entry).trans ?_⟩
      · exact and_congr_left fun foreign => otherAddresses entry foreign
      · exact and_congr_left fun foreign => otherRoutes entry foreign

/-! ## Tables that are lists -/

/-- The willing backend over lists of addresses and of routes. -/
def listing : Backend (StateM (List AddressEntry × List RouteEntry)) where
  loadDriver := return .ok ⟨0⟩
  driver driver :=
    (willing.driver driver).lift fun operation world =>
      ((operation.run ()).1, world)
  table :=
    { addAddress := fun interface network world =>
        (.ok (), world.1 ++ [{ interface, network }], world.2)
      addresses := fun world => (.ok world.1, world)
      deleteAddress := fun gone world =>
        (.ok (), world.1.filter (· != gone), world.2)
      addRoute := fun interface destination world =>
        (.ok (), world.1,
          world.2 ++ [{ interface, destination, metric := 0 }])
      routes := fun world => (.ok world.2, world)
      deleteRoute := fun gone world =>
        (.ok (), world.1, world.2.filter (· != gone)) }
  monitor := { subscribe := return .ok 1, status := fun _ => return .ok .up }
  entropy := return (willing.entropy.run ()).1
  meanwhile observer := return observer

theorem isPaced_listing : listing.IsPaced :=
  fun _ => always_pure ⟨[], nofun, rfl⟩

theorem keepsTables_listing :
    listing.KeepsTables (fun world => {entry | entry ∈ world.1})
      fun world => {entry | entry ∈ world.2} where
  addressStore :=
    { lists := fun world => ⟨world.1, rfl, fun _ => Iff.rfl⟩
      keeps := fun _ => ⟨rfl, rfl⟩
      deletes := fun _ _ =>
        ⟨fun _ => List.mem_filter.trans
          (and_congr_right fun _ => bne_iff_ne), rfl⟩ }
  routeStore :=
    { lists := fun world => ⟨world.2, rfl, fun _ => Iff.rfl⟩
      keeps := fun _ => ⟨rfl, rfl⟩
      deletes := fun _ _ =>
        ⟨fun _ => List.mem_filter.trans
          (and_congr_right fun _ => bne_iff_ne), rfl⟩ }
  beside _ _ := ⟨rfl, rfl⟩

/-- Set up an adapter and connect it. -/
def routine : List Move :=
  [.call "nativeInit" [],
    .call "setupTunnel" [(adapterArgument, .text "wg0")],
    .call "connect"
      [(adapterArgument, .text "wg0"), (documentArgument, .text "")]]

/-- Addresses and routes of the adapter and of another interface. -/
def stock : List AddressEntry × List RouteEntry :=
  ([⟨⟨1⟩, default⟩, ⟨⟨2⟩, default⟩],
    [⟨⟨2⟩, default, 5⟩, ⟨⟨1⟩, default, 0⟩])

theorem disconnect_completes_stock :
    let reached := (serve listing.recorded {} routine).run
      { world := stock, journal := [] }
    let result := (reached.1.1.disconnect listing.recorded "wg0").run
      reached.2
    listing.IsPaced ∧
      (∃ known, reached.1.1.find? "wg0" = some known) ∧
      result.1.2 = .ok .done ∧
      (∀ entry, entry ∈ result.2.world.1 ↔
        entry ∈ reached.2.world.1 ∧ entry.interface ≠ ⟨1⟩) ∧
      ∀ entry, entry ∈ result.2.world.2 ↔
        entry ∈ reached.2.world.2 ∧ entry.interface ≠ ⟨1⟩ := by
  intro reached result
  have found : reached.1.1.find? "wg0" = some
      { driver := ⟨0⟩
        adapter :=
          { name := "wg0", handle := some ⟨1⟩, applied := some {} } } := rfl
  obtain ⟨handle, -, -, accepted⟩ :=
    disconnect_completes isPaced_listing stock routine found
  obtain ⟨done, -, -, left⟩ := accepted ⟨1⟩ rfl rfl
  obtain ⟨addresses, routes⟩ := left _ _ keepsTables_listing
    (fun _ _ => Iff.rfl) fun _ _ => Iff.rfl
  exact ⟨isPaced_listing, ⟨_, found⟩, done, addresses, routes⟩

end Service

end Tunnel
