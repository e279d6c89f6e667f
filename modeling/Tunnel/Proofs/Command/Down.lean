import Tunnel.Command.Run
import Tunnel.Proofs.Mirror
import Tunnel.Proofs.Service.Disconnect

/-!
# Teardown from the command line

Both the service and the command line take an interface down with the same two
removal passes.  The service makes the second pass whatever the first one
gives; the command does so only if the addresses could be listed, and ends
otherwise.  Where they can be listed, both ask the tables for the same
(`down_asks_as_disconnect`), and the command reports a failure exactly if a
listing or a deletion really failed.

Where the addresses cannot be listed, the command leaves all routes of the
interface (`down_leaves_routes`).
-/

namespace Tunnel

/-! ## Failed removals -/

/-- What was to be deleted is not gone. -/
def isRefused : Except Error Unit → Bool
  | .ok _ => false
  | .error error => !error.isNotFound

/-- A listing that failed, or a deletion that left its entry. -/
def RouteTable.Event.isFailedRemoval : RouteTable.Event → Bool
  | .addressesListed (.error _) | .routesListed (.error _) => true
  | .addressDeleted _ answer | .routeDeleted _ answer => isRefused answer
  | _ => false

namespace Network

/-- A pass was made and has removed everything. -/
def isClean : Except Error Pass → Bool
  | .ok pass => pass.isSuccess
  | .error _ => false

section Failures

variable {World Event Entry : Type} (kind : EntryKind)
  (isOwned : Entry → Bool) (network : Entry → Prefix)
  {table : StateM World (Except Error (List Entry))}
  {delete : Entry → StateM World (Except Error Unit)}
  {listing : Except Error (List Entry) → Event}
  {deletion : Entry → Except Error Unit → Event} {failed : Event → Bool}

/-- A pass has no failures exactly if no deletion was refused. -/
theorem yields_removeEach_failures
    (deletions : ∀ entry answer,
      failed (deletion entry answer) = isRefused answer)
    (entries : List Entry) :
    Yields (removeEach kind network
        (fun entry => record (deletion entry) (delete entry)) entries)
      fun pass events => pass.isSuccess = !events.any failed := by
  refine (yields_removeEach_account kind network
    (fun entry => yields_record (deletion entry) (delete entry))
    entries).mono ?_
  rintro _ _ ⟨answers, -, rfl, rfl⟩
  rw [Bool.eq_iff_iff, (isAccount_ofAnswers kind network _).success,
    Bool.not_eq_true', List.any_eq_false, ← List.map_uncurry_zip_eq_zipWith,
    List.forall_mem_map, Prod.forall]
  refine forall_congr' fun entry => ?_
  constructor
  · rintro missing (error | _) member
    · simp [deletions, isRefused, Error.isNotFound_iff_isMissing,
        missing error member]
    · simp [deletions, isRefused]
  · intro quiet error member
    have settled := quiet (.error error) member
    rwa [Function.uncurry_apply_pair, deletions, isRefused, Bool.not_eq_true',
      Bool.not_eq_false, Error.isNotFound_iff_isMissing] at settled

theorem yields_removeOwned_failures
    (refused : ∀ error, failed (listing (.error error)) = true)
    (answered : ∀ entries, failed (listing (.ok entries)) = false)
    (deletions : ∀ entry answer,
      failed (deletion entry answer) = isRefused answer) :
    Yields (removeOwned kind isOwned network (record listing table)
        fun entry => record (deletion entry) (delete entry))
      fun answer events => isClean answer = !events.any failed := by
  refine (yields_record listing table).bind ?_
  rintro listed _ rfl
  cases listed with
  | error error =>
      refine yields_pure ?_
      simp [isClean, refused]
  | ok entries =>
      refine (yields_removeEach_failures kind network deletions _).bind
        fun pass events same => yields_pure ?_
      simp [isClean, same, answered]

end Failures

section Tables

variable {World : Type} (table : RouteTable (StateM World))
  (interface : InterfaceId)

theorem yields_removeAllAddresses_failures :
    Yields (removeAllAddresses (table.recorded id) interface)
      fun answer events =>
        isClean answer = !events.any RouteTable.Event.isFailedRemoval :=
  yields_removeOwned_failures _ _ _ (fun _ => rfl) (fun _ => rfl)
    fun _ _ => rfl

theorem yields_removeAllRoutes_failures :
    Yields (removeAllRoutes (table.recorded id) interface)
      fun answer events =>
        isClean answer = !events.any RouteTable.Event.isFailedRemoval :=
  yields_removeOwned_failures _ _ _ (fun _ => rfl) (fun _ => rfl)
    fun _ _ => rfl

end Tables

/-! ## Both passes -/

/-- Both passes, one after the other whatever the first one gives. -/
def removeAll {m : Type → Type} [Monad m] (table : RouteTable m)
    (interface : InterfaceId) : m (Except Error Pass × Except Error Pass) := do
  let addresses ← removeAllAddresses table interface
  let routes ← removeAllRoutes table interface
  return (addresses, routes)

/--
The calls of both passes.  The addresses are listed, and every one of the
interface is to be deleted, once each time it is listed and in that order; then
the same is done for the routes, however the tables have answered.
-/
def IsRemoval (interface : InterfaceId) (calls : List RouteTable.Event) :
    Prop :=
  ∃ addresses gone routes left,
    gone.length = (ownAddresses interface addresses).length ∧
    left.length = (ownRoutes interface routes).length ∧
    calls =
      .addressesListed addresses ::
        List.zipWith .addressDeleted (ownAddresses interface addresses) gone ++
      .routesListed routes ::
        List.zipWith .routeDeleted (ownRoutes interface routes) left

theorem yields_removeAll {World : Type} (table : RouteTable (StateM World))
    (interface : InterfaceId) :
    Yields (removeAll (table.recorded id) interface)
      fun _ calls => IsRemoval interface calls := by
  refine (yields_removeAllAddresses id table interface).bind ?_
  rintro pass _ ⟨addresses, gone, every, rfl⟩
  refine (yields_removeAllRoutes id table interface).bind ?_
  rintro pass _ ⟨routes, left, each, rfl⟩
  refine yields_pure ⟨addresses, gone, routes, left, every, each, ?_⟩
  rw [List.append_nil]
  rfl

theorem mirrors_removeAll {Near Far : Type} {image : Near → Far}
    {near : RouteTable (StateM Near)} {far : RouteTable (StateM Far)}
    (mirrors : RouteTable.Mirrors image near far) (interface : InterfaceId) :
    Mirrors image (removeAll near interface) (removeAll far interface) :=
  (mirrors.removeAllAddresses interface).bind fun _ =>
    (mirrors.removeAllRoutes interface).bind fun _ => mirrors_pure _

/-- A pass is made exactly if the table could be listed. -/
theorem removeAllAddresses_listed {World : Type}
    {table : RouteTable (StateM World)} {interface : InterfaceId}
    {world : World} {entries : List AddressEntry}
    (listed : (table.addresses.run world).1 = .ok entries) :
    ∃ pass, ((removeAllAddresses table interface).run world).1 = .ok pass := by
  unfold removeAllAddresses removeOwned
  rw [run_bind, listed]
  exact ⟨_, rfl⟩

theorem removeAllAddresses_unlisted {World : Type}
    {table : RouteTable (StateM World)} {interface : InterfaceId}
    {world : World} {error : Error}
    (refused : (table.addresses.run world).1 = .error error) :
    (removeAllAddresses table interface).run world =
      (.error (error.withContext "listing addresses"),
        (table.addresses.run world).2) := by
  unfold removeAllAddresses removeOwned
  rw [run_bind, refused]
  rfl

end Network

namespace Command

variable {m : Type → Type} [Monad m]

/-- What the command does to the tables, and how it ends. -/
def removal (table : RouteTable m) (interface : InterfaceId) : m Exit := do
  match ← Network.removeAllAddresses table interface with
  | .error _ => return .failure
  | .ok addresses =>
      match ← Network.removeAllRoutes table interface with
      | .error _ => return .failure
      | .ok routes =>
          return if addresses.isSuccess && routes.isSuccess then .success
            else .failure

/-- The command with what it prints. -/
theorem runTask_down [LawfulMonad m] {host : Host m} {table : RouteTable m}
    {index : UInt32} (opens : host.openTable = pure (.ok table)) :
    runTask host (.down index) = (do
      match ← Network.removeAllAddresses table (.ofIndex index) with
      | .error error =>
          host.complain s!"Error: {error}\n"
          return .failure
      | .ok addresses =>
          reportPass host.toConsole "addresses" addresses
          match ← Network.removeAllRoutes table (.ofIndex index) with
          | .error error =>
              host.complain s!"Error: {error}\n"
              return .failure
          | .ok routes =>
              reportPass host.toConsole "routes" routes
              return if addresses.isSuccess && routes.isSuccess then .success
                else .failure) := by
  unfold runTask perform down removeAll
  simp only [opens, ExceptT.run_bind, ExceptT.run_mk, ExceptT.run_lift,
    ExceptT.run_pure, pure_bind, bind_assoc]
  refine bind_congr fun answer => ?_
  cases answer with
  | error error => simp only [pure_bind]
  | ok addresses =>
      simp only [bind_assoc, map_eq_pure_bind, pure_bind]
      refine bind_congr fun _ => bind_congr fun answer => ?_
      cases answer with
      | error error => simp only [pure_bind]
      | ok routes => simp only [bind_assoc, pure_bind]

/-! ## Hosts -/

/-- What printing leaves alone, and where tables that are journalled open. -/
structure Host.Keeps {World Output : Type}
    (host : Host (StateM (Recorded World RouteTable.Event × Output)))
    (table : RouteTable (StateM World)) : Prop where
  opens : host.openTable = pure (.ok ((table.recorded id).lift onFirst))
  prints : ∀ octets, Mirrors Prod.fst (host.print octets) (pure ())
  complains : ∀ text, Mirrors Prod.fst (host.complain text) (pure ())

section Keeps

variable {World Output : Type}
  {host : Host (StateM (Recorded World RouteTable.Event × Output))}
  {table : RouteTable (StateM World)} {index : UInt32}

theorem Host.Keeps.reportPass (keeps : host.Keeps table) (what : String)
    (pass : Network.Pass) :
    Mirrors Prod.fst (reportPass host.toConsole what pass) (pure ()) := by
  refine .after (keeps.prints _) ?_
  induction pass.failures with
  | nil => exact mirrors_pure ()
  | cons failure rest ih =>
      exact .after (keeps.complains _) ih

/-- As far as the tables can tell, the command does not print. -/
theorem Host.Keeps.runTask_down (keeps : host.Keeps table) :
    Mirrors Prod.fst (runTask host (.down index))
      (removal (table.recorded id) (.ofIndex index)) := by
  have tables := @RouteTable.Mirrors.lift _ Output (table.recorded id)
  rw [Command.runTask_down keeps.opens]
  refine (tables.removeAllAddresses _).bind fun answer => ?_
  cases answer with
  | error error => exact .after (keeps.complains _) (mirrors_pure _)
  | ok addresses =>
      refine .after (keeps.reportPass _ _) ?_
      refine (tables.removeAllRoutes _).bind fun answer => ?_
      cases answer with
      | error error => exact .after (keeps.complains _) (mirrors_pure _)
      | ok routes => exact .after (keeps.reportPass _ _) (mirrors_pure _)

end Keeps

/-! ## What the command does -/

section Removal

variable {World : Type} (table : RouteTable (StateM World))
  (interface : InterfaceId)

/-- The command fails exactly if a listing or a deletion has. -/
theorem yields_removal :
    Yields (removal (table.recorded id) interface) fun exit calls =>
      exit = if calls.any RouteTable.Event.isFailedRemoval then .failure
        else .success := by
  refine (Network.yields_removeAllAddresses_failures table interface).bind
    fun answer calls clean => ?_
  have failed : calls.any RouteTable.Event.isFailedRemoval =
      !Network.isClean answer := by
    rw [clean, Bool.not_not]
  cases answer with
  | error error =>
      refine yields_pure ?_
      rw [List.append_nil, failed]
      rfl
  | ok addresses =>
      refine (Network.yields_removeAllRoutes_failures table interface).bind
        fun answer later clean => ?_
      have alsoFailed : later.any RouteTable.Event.isFailedRemoval =
          !Network.isClean answer := by
        rw [clean, Bool.not_not]
      cases answer with
      | error error =>
          refine yields_pure ?_
          rw [List.append_nil, List.any_append, alsoFailed]
          exact (if_pos (Bool.or_true _)).symm
      | ok routes =>
          refine yields_pure ?_
          rw [List.append_nil, List.any_append, failed, alsoFailed,
            Network.isClean, Network.isClean, ← Bool.not_and]
          cases addresses.isSuccess && routes.isSuccess <;> rfl

section Run

variable {table interface} {world : World}

/-- Where the addresses can be listed, both passes are made. -/
theorem run_removal_listed {entries : List AddressEntry}
    (listed : (table.addresses.run world).1 = .ok entries) :
    ((removal table interface).run world).2 =
      ((Network.removeAll table interface).run world).2 := by
  obtain ⟨pass, made⟩ :=
    @Network.removeAllAddresses_listed _ _ interface _ _ listed
  unfold removal Network.removeAll
  rw [run_bind, run_bind, made]
  dsimp only
  rw [run_bind, run_bind]
  cases ((Network.removeAllRoutes table interface).run
    ((Network.removeAllAddresses table interface).run world).2).1 <;> rfl

/-- Where they cannot, nothing else is asked for. -/
theorem run_removal_unlisted {error : Error}
    (refused : (table.addresses.run world).1 = .error error) :
    (removal table interface).run world =
      (.failure, (table.addresses.run world).2) := by
  unfold removal
  rw [run_bind, Network.removeAllAddresses_unlisted refused]
  rfl

end Run

end Removal

end Command

/-! ## What the service does -/

namespace Service

section Disconnecting

variable {World : Type} {backend : Backend (StateM World)}
  {service : Service} {name : String} {known : KnownAdapter}
  {handle : Handle} {interface : InterfaceId}
  {now : Recorded World Backend.Event}

/-- Cleaning up calls the tables for both passes and nothing else. -/
theorem journal_cleanUp :
    ((service.cleanUp backend.recorded interface).run now).2.journal =
      ((Network.removeAll (backend.table.recorded .table)
        interface).run now).2.journal :=
  rfl

/-- Disconnecting makes both passes, whatever they answer. -/
theorem journal_disconnect (found : service.find? name = some known)
    (has : known.adapter.handle = some handle)
    (lowered : (backend.lowering known.driver handle now.world).1 = .ok ())
    (reported : (backend.reporting known.driver handle now.world).1 =
      .ok interface) :
    let world := (backend.reporting known.driver handle now.world).2
    let calls := ((Network.removeAll (backend.table.recorded id)
      interface).run { world, journal := [] }).2.journal
    ((service.disconnect backend.recorded name).run now).2.journal =
      now.journal ++
        [.driver known.driver (.stateSet handle .down (.ok ())),
          .driver known.driver (.identified handle (.ok interface))] ++
        calls.map .table := by
  intro world calls
  rw [run_disconnect_accepted found has lowered reported, journal_cleanUp]
  -- The service notes the calls of the tables below those of the driver.
  have same := Network.mirrors_removeAll
    (RouteTable.Mirrors.recorded Backend.Event.table (now.journal ++
      [.driver known.driver (.stateSet handle .down (.ok ())),
        .driver known.driver (.identified handle (.ok interface))])
      backend.table) interface { world, journal := [] }
  rw [Recorded.below, List.map_nil, List.append_nil] at same
  exact congrArg (fun result => result.2.journal) same

end Disconnecting

/--
Taking an interface down from the command line, and disconnecting an adapter
that reports the interface, where the tables behave alike.  Both ask for the
deletion of all listed addresses and routes of the interface, if the command
can list the addresses; if it cannot, that is all the command asks for.  It
fails exactly if a listing or a deletion has failed.
-/
theorem down_asks_as_disconnect {World Output : Type}
    {backend : Backend (StateM World)} {service : Service} {name : String}
    {known : KnownAdapter} {handle : Handle} {index : UInt32}
    {now : Recorded World Backend.Event}
    {host : Command.Host (StateM (Recorded World RouteTable.Event × Output))}
    (found : service.find? name = some known)
    (has : known.adapter.handle = some handle)
    (lowered : (backend.lowering known.driver handle now.world).1 = .ok ())
    (reported : (backend.reporting known.driver handle now.world).1 =
      .ok (.ofIndex index))
    (keeps : host.Keeps backend.table) (output : Output) :
    let world := (backend.reporting known.driver handle now.world).2
    let disconnected := (service.disconnect backend.recorded name).run now
    let ended := (Command.runTask host (.down index)).run
      ({ world, journal := [] }, output)
    let asked := ended.2.1.journal
    (∃ calls, Network.IsRemoval (.ofIndex index) calls ∧
      disconnected.2.journal = now.journal ++
        [.driver known.driver (.stateSet handle .down (.ok ())),
          .driver known.driver (.identified handle (.ok (.ofIndex index)))] ++
        calls.map .table ∧
      ∀ entries, (backend.table.addresses.run world).1 = .ok entries →
        asked = calls) ∧
    (∀ error, (backend.table.addresses.run world).1 = .error error →
      asked = [.addressesListed (.error error)]) ∧
    ended.1 = if asked.any RouteTable.Event.isFailedRemoval then .failure
      else .success := by
  intro world disconnected ended asked
  have mirrored := @Command.Host.Keeps.runTask_down _ _ _ _ index keeps
    ({ world, journal := [] }, output)
  have same : asked = ((Command.removal (backend.table.recorded id)
      (.ofIndex index)).run { world, journal := [] }).2.journal :=
    congrArg (fun result => result.2.journal) mirrored.symm
  refine ⟨?_, ?_, ?_⟩
  · obtain ⟨calls, grown, removes⟩ := Network.yields_removeAll backend.table
      (.ofIndex index) { world, journal := [] }
    rw [List.nil_append] at grown
    refine ⟨calls, removes, ?_, fun entries listed => ?_⟩
    · rw [← grown]
      exact journal_disconnect found has lowered reported
    · have listed : ((backend.table.recorded id).addresses.run
          { world, journal := [] }).1 = .ok entries := listed
      rw [same, Command.run_removal_listed listed, grown]
  · intro error refused
    have unlisted : ((backend.table.recorded id).addresses.run
        { world, journal := [] }).1 = .error error := refused
    rw [same, Command.run_removal_unlisted unlisted]
    exact congrArg (fun answer => [RouteTable.Event.addressesListed answer])
      refused
  · obtain ⟨calls, grown, exits⟩ := Command.yields_removal backend.table
      (.ofIndex index) { world, journal := [] }
    rw [List.nil_append] at grown
    rw [same, grown]
    exact (congrArg Prod.fst mirrored.symm).trans exits

/-- A host that opens given tables, and keeps what is printed. -/
def printing {World : Type} (table : RouteTable (StateM World)) :
    Command.Host (StateM (Recorded World RouteTable.Event × List UInt8)) where
  print octets := modify fun (tables, printed) => (tables, printed ++ octets)
  complain _ := return ()
  fetch _ := return .error .unavailable
  store _ _ := return .error .unavailable
  input := return .error .unavailable
  entropy := return (willing.entropy.run ()).1
  openTable := return .ok ((table.recorded id).lift onFirst)
  openMonitor := return .error .unavailable
  untilInterrupted _ schedule := return schedule

theorem keeps_printing {World : Type} (table : RouteTable (StateM World)) :
    (printing table).Keeps table where
  opens := rfl
  prints _ _ := rfl
  complains _ := mirrors_pure ()

theorem down_asks_as_disconnect_stock :
    let disconnected := (attentive.disconnect listing.recorded "wg0").run
      { world := stock, journal := [] }
    let ended := (Command.runTask (printing listing.table) (.down 1)).run
      ({ world := stock, journal := [] }, [])
    attentive.find? "wg0" = some
        { driver := ⟨0⟩, adapter := Adapter.ofHandle "wg0" ⟨1⟩ } ∧
      (listing.lowering ⟨0⟩ ⟨1⟩ stock).1 = .ok () ∧
      (listing.reporting ⟨0⟩ ⟨1⟩ stock).1 = .ok (.ofIndex 1) ∧
      (printing listing.table).Keeps listing.table ∧
      (∃ calls, Network.IsRemoval (.ofIndex 1) calls ∧
        disconnected.2.journal =
          [.driver ⟨0⟩ (.stateSet ⟨1⟩ .down (.ok ())),
            .driver ⟨0⟩ (.identified ⟨1⟩ (.ok (.ofIndex 1)))] ++
          calls.map .table ∧
        ended.2.1.journal = calls) ∧
      ended.1 = .success := by
  intro disconnected ended
  obtain ⟨⟨calls, removes, journal, same⟩, -, exits⟩ :=
    @down_asks_as_disconnect _ _ listing attentive "wg0" _ ⟨1⟩ 1
      { world := stock, journal := [] } _ rfl rfl rfl rfl
      (keeps_printing listing.table) []
  exact ⟨rfl, rfl, rfl, keeps_printing _,
    ⟨calls, removes, journal, same _ rfl⟩, exits⟩

/-- The same tables, when addresses cannot be listed. -/
def unlisted : Backend (StateM (List AddressEntry × List RouteEntry)) :=
  { listing with
    table := { listing.table with
      addresses := fun world =>
        (.error (Error.ofErrno Errno.inputOutput), world) } }

/-- The service deletes the route of the interface, the command does not. -/
theorem down_leaves_routes :
    let route : RouteEntry := ⟨⟨1⟩, default, 0⟩
    let refused : RouteTable.Event :=
      .addressesListed (.error (Error.ofErrno Errno.inputOutput))
    let disconnected := (attentive.disconnect unlisted.recorded "wg0").run
      { world := stock, journal := [] }
    let ended := (Command.runTask (printing unlisted.table) (.down 1)).run
      ({ world := stock, journal := [] }, [])
    route ∈ stock.2 ∧
      disconnected.2.journal =
        [.driver ⟨0⟩ (.stateSet ⟨1⟩ .down (.ok ())),
          .driver ⟨0⟩ (.identified ⟨1⟩ (.ok ⟨1⟩)),
          .table refused, .table (.routesListed (.ok stock.2)),
          .table (.routeDeleted route (.ok ()))] ∧
      route ∉ disconnected.2.world.2 ∧
      ended.2.1.journal = [refused] ∧ route ∈ ended.2.1.world.2 :=
  ⟨by decide, rfl, by decide, rfl, by decide⟩

end Service

end Tunnel
