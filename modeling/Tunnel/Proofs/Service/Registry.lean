import Tunnel.Proofs.Network.Removal
import Tunnel.Proofs.Service.Ledger
import Tunnel.Proofs.Watch.Run

/-!
# The adapters that a service knows

A service is called, shut down and called again, and between the calls its
observer goes on.  Whatever it is asked and whatever it is answered, the names
of its adapters differ and none of them is closed (`IsSound`), and the handles
that are held are exactly those of its adapters, in the order in which they
were set up.  Each call is followed through the ledger of handles (`Settles`);
calls that neither set up nor release adapters leave the roster of names and
handles as it is.
-/

namespace Tunnel

/-! ## Serving -/

namespace Service

/-- What happens to a service. -/
inductive Move
  | call (method : String) (arguments : Arguments)
  | shutdown
  /-- The observer goes on, between two calls. -/
  | observer (action : Watch.Action)

section Serving

variable {m : Type → Type} [Monad m]

/-- One move, with the outcome of a call. -/
def move (backend : Backend m) (service : Service) :
    Move → m (Service × Option Outcome)
  | .call method arguments => do
      let (service, outcome) ← service.dispatch backend method arguments
      return (service, some outcome)
  | .shutdown => do
      let service ← service.shutdown backend
      return (service, none)
  | .observer action =>
      let observer := (service.observer.step action).getD service.observer
      return ({ service with observer }, none)

/-- Moves in a row, with the outcomes of the calls. -/
def serve (backend : Backend m) (service : Service) :
    List Move → m (Service × List Outcome)
  | [] => return (service, [])
  | move :: rest => do
      let (service, outcome) ← service.move backend move
      let (service, outcomes) ← serve backend service rest
      return (service, outcome.toList ++ outcomes)

end Serving

end Service

/-! ## Rosters -/

/-- What is held for an adapter. -/
def KnownAdapter.holding? (known : KnownAdapter) : Option Holding :=
  known.adapter.handle.map (⟨known.driver, ·⟩)

namespace Service

/-- The names of the adapters, with what is held for each. -/
def roster (service : Service) : List (String × Option Holding) :=
  service.adapters.map fun known => (known.adapter.name, known.holding?)

/-- What is held for the adapters, in their order. -/
def held (service : Service) : List Holding :=
  service.adapters.filterMap KnownAdapter.holding?

/-- The names differ and no adapter is closed. -/
structure IsSound (service : Service) : Prop where
  distinct : (service.adapters.map (·.adapter.name)).Nodup
  valid : ∀ known ∈ service.adapters, known.adapter.isValid = true

section Roster

variable {service after : Service} {name : String} {known : KnownAdapter}
  {adapter : Adapter}

theorem held_eq_roster :
    service.held = service.roster.filterMap Prod.snd := by
  unfold roster
  rw [List.filterMap_map]
  rfl

theorem held_congr (same : after.roster = service.roster) :
    after.held = service.held := by
  rw [held_eq_roster, same, ← held_eq_roster]

theorem isSound_iff_roster :
    service.IsSound ↔
      (service.roster.map Prod.fst).Nodup ∧
        ∀ row ∈ service.roster, row.2.isSome = true := by
  have names : service.roster.map Prod.fst =
      service.adapters.map (·.adapter.name) := List.map_map
  have handles : (∀ row ∈ service.roster, row.2.isSome = true) ↔
      ∀ known ∈ service.adapters, known.adapter.isValid = true := by
    unfold roster
    rw [List.forall_mem_map]
    refine forall₂_congr fun known _ => ?_
    rw [KnownAdapter.holding?, Option.isSome_map]
    rfl
  rw [names, handles]
  exact ⟨fun sound => ⟨sound.1, sound.2⟩, fun both => ⟨both.1, both.2⟩⟩

theorem IsSound.congr (sound : service.IsSound)
    (same : after.roster = service.roster) : after.IsSound := by
  rw [isSound_iff_roster, same, ← isSound_iff_roster]
  exact sound

theorem mem_of_find? (found : service.find? name = some known) :
    known ∈ service.adapters :=
  List.mem_of_find?_eq_some found

theorem name_of_find? (found : service.find? name = some known) :
    known.adapter.name = name := by
  have own := List.find?_some found
  exact of_decide_eq_true own

/-- A known adapter of a sound service has a handle, which is held. -/
theorem IsSound.exists_handle (sound : service.IsSound)
    (found : service.find? name = some known) :
    ∃ handle, known.adapter.handle = some handle ∧
      ⟨known.driver, handle⟩ ∈ service.held := by
  obtain ⟨handle, has⟩ :=
    Option.isSome_iff_exists.1 (sound.valid known (mem_of_find? found))
  refine ⟨handle, has, List.mem_filterMap.2 ⟨known, mem_of_find? found, ?_⟩⟩
  rw [KnownAdapter.holding?, has]
  rfl

/-- An adapter that is replaced by one of its name and handle. -/
theorem roster_replace (found : service.find? adapter.name = some known)
    (same : adapter.handle = known.adapter.handle) :
    (service.replace adapter).roster = service.roster := by
  show (replace.replaceFirst adapter service.adapters).map _ =
    service.adapters.map _
  unfold find? at found
  generalize service.adapters = adapters at found ⊢
  induction adapters with
  | nil => rfl
  | cons first rest ih =>
      rw [List.find?_cons] at found
      rw [replace.replaceFirst]
      by_cases own : first.adapter.name = adapter.name
      · rw [decide_eq_true own] at found
        cases found
        rw [if_pos own, List.map_cons, List.map_cons]
        simp only [KnownAdapter.holding?, same, own]
      · rw [decide_eq_false own] at found
        rw [if_neg own, List.map_cons, List.map_cons, ih found]

end Roster

end Service

/-! ## Adapters -/

namespace Adapter

variable {World : Type} {backend : Backend (StateM World)}
  {held : List Holding} {driver : DriverId} {adapter : Adapter}
  {handle : Handle}

theorem spares_withHandle {α : Type}
    {action :
      Handle → StateM (Recorded World Backend.Event) (Except Error α)}
    (has : adapter.handle = some handle)
    (spares : Spares held (action handle) fun _ => True) :
    Spares held (adapter.withHandle action) fun _ => True := by
  unfold withHandle
  rw [has]
  exact spares

theorem spares_identifier (has : adapter.handle = some handle)
    (member : ⟨driver, handle⟩ ∈ held) :
    Spares held (adapter.identifier (backend.recorded.driver driver))
      fun _ => True :=
  spares_withHandle has (spares_record_used (fun _ => rfl) member)

theorem spares_state (has : adapter.handle = some handle)
    (member : ⟨driver, handle⟩ ∈ held) :
    Spares held (adapter.state (backend.recorded.driver driver))
      fun _ => True :=
  spares_withHandle has (spares_record_used (fun _ => rfl) member)

theorem spares_setState (state : AdapterState)
    (has : adapter.handle = some handle)
    (member : ⟨driver, handle⟩ ∈ held) :
    Spares held (adapter.setState (backend.recorded.driver driver) state)
      fun _ => True :=
  spares_withHandle has (spares_record_used (fun _ => rfl) member)

/-- Applying a document keeps the name and the handle. -/
theorem spares_apply (document : String)
    (has : adapter.handle = some handle)
    (member : ⟨driver, handle⟩ ∈ held) :
    Spares held (adapter.apply (backend.recorded.driver driver) document)
      fun answer => answer.2.name = adapter.name ∧
        answer.2.handle = adapter.handle := by
  unfold apply
  rw [has]
  dsimp only
  split
  · exact settles_pure ⟨rfl, rfl, rfl⟩
  · next config image _ =>
      have takes : Spares held
          ((backend.recorded.driver driver).setConfiguration handle image)
          fun _ => True := spares_record_used (fun _ => rfl) member
      have rises : Spares held
          ((backend.recorded.driver driver).setState handle .up)
          fun _ => True := spares_record_used (fun _ => rfl) member
      refine takes.bind fun taken _ => ?_
      cases taken with
      | error error => exact settles_pure ⟨rfl, rfl, rfl⟩
      | ok _ =>
          refine rises.bind fun raised _ => ?_
          cases raised <;> exact settles_pure ⟨rfl, rfl, rfl⟩

/-- What is held once an adapter of a name was asked for. -/
def IsAcquired (held : List Holding) (driver : DriverId) (name : String)
    (answer : Except Error Adapter) (after : List Holding) : Prop :=
  match answer with
  | .error _ => after = held
  | .ok adapter => adapter.name = name ∧ ∃ handle,
      adapter.handle = some handle ∧ after = held ++ [⟨driver, handle⟩]

/-- A handle that a driver gives is held from then on. -/
theorem settles_adopt {event : Except Error Handle → Driver.Event}
    {operation : StateM World (Except Error Handle)} {name : String}
    (context : String)
    (given : ∀ handle,
      Backend.Event.dealing? (.driver driver (event (.ok handle))) =
        some (.given ⟨driver, handle⟩))
    (refused : ∀ error,
      Backend.Event.dealing? (.driver driver (event (.error error))) =
        none) :
    Settles held
      (do
        match ← record (.driver driver <| event ·) operation with
        | .ok handle => return .ok (ofHandle name handle)
        | .error error => return .error (error.withContext context))
      (IsAcquired held driver name) := by
  have asked : Settles held
      (record (.driver driver <| event ·) operation)
      fun answer after => after =
        match answer with
        | .ok handle => held ++ [⟨driver, handle⟩]
        | .error _ => held := by
    refine settles_record fun answer => ?_
    cases answer with
    | ok handle => exact ⟨_, enterAll_single (given handle), rfl⟩
    | error error => exact ⟨_, enterAll_silent (refused error), rfl⟩
  refine asked.bind ?_
  rintro (error | handle) _ rfl
  · exact settles_pure rfl
  · exact settles_pure ⟨rfl, handle, rfl, rfl⟩

theorem settles_openExisting (name : String) :
    Settles held (openExisting (backend.recorded.driver driver) name)
      (IsAcquired held driver name) :=
  settles_adopt s!"opening adapter {name}" (fun _ => rfl) fun _ => rfl

theorem settles_create (name tunnelType : String) :
    Settles held (create (backend.recorded.driver driver) name tunnelType)
      (IsAcquired held driver name) :=
  settles_adopt s!"creating adapter {name}" (fun _ => rfl) fun _ => rfl

theorem settles_acquire (name : String) :
    Settles held (Service.acquire (backend.recorded.driver driver) name)
      (IsAcquired held driver name) := by
  refine (settles_openExisting name).bind ?_
  rintro (error | adapter) after acquired
  · cases acquired
    exact settles_create name defaultTunnelType
  · exact settles_pure acquired

end Adapter

/-! ## Tables and observers -/

section Beside

variable {World : Type} {backend : Backend (StateM World)}
  {held : List Holding} {interface : InterfaceId}

/-- The tables know nothing of handles. -/
theorem dealings_table {Entry : Type} (first : RouteTable.Event)
    (event : Entry → Except Error Unit → RouteTable.Event)
    (entries : List Entry) (answers : List (Except Error Unit)) :
    dealings (.table first ::
      List.zipWith (fun entry answer => .table (event entry answer))
        entries answers) = [] := by
  rw [dealings, List.filterMap_cons_none rfl,
    ← List.map_uncurry_zip_eq_zipWith, List.filterMap_map]
  exact List.filterMap_eq_nil_iff.2 fun _ _ => rfl

theorem spares_removeAllAddresses :
    Spares held (Network.removeAllAddresses backend.recorded.table interface)
      fun _ => True := by
  refine spares_of_yields
    ((Network.yields_removeAllAddresses Backend.Event.table backend.table
      interface).mono ?_)
  rintro pass _ ⟨listed, answers, -, rfl⟩
  exact ⟨dealings_table _ .addressDeleted _ _, trivial⟩

theorem spares_removeAllRoutes :
    Spares held (Network.removeAllRoutes backend.recorded.table interface)
      fun _ => True := by
  refine spares_of_yields
    ((Network.yields_removeAllRoutes Backend.Event.table backend.table
      interface).mono ?_)
  rintro pass _ ⟨listed, answers, -, rfl⟩
  exact ⟨dealings_table _ .routeDeleted _ _, trivial⟩

theorem spares_addAll {kind : Network.EntryKind}
    {add : Prefix → StateM (Recorded World Backend.Event) (Except Error Unit)}
    (each : ∀ network, Spares held (add network) fun _ => True)
    (networks : List Prefix) :
    Spares held (Network.addAll kind add networks) fun _ => True := by
  induction networks with
  | nil => exact settles_pure ⟨rfl, trivial⟩
  | cons network rest ih =>
      refine (each network).bind fun answer _ => ?_
      cases answer with
      | ok _ => exact ih.bind fun pass _ => settles_pure ⟨rfl, trivial⟩
      | error error =>
          dsimp only
          split
          · exact ih.bind fun pass _ => settles_pure ⟨rfl, trivial⟩
          · exact settles_pure ⟨rfl, trivial⟩

theorem spares_enrolWith {observer : Observer} :
    Spares held (observer.enrolWith backend.recorded.monitor interface)
      fun _ => True := by
  have asks : Spares held backend.recorded.monitor.subscribe
      fun _ => True := spares_record fun _ => rfl
  unfold Observer.enrolWith
  split
  · exact settles_pure ⟨rfl, trivial⟩
  · exact asks.bind fun answer _ => settles_pure ⟨rfl, trivial⟩

namespace Service

variable {service : Service}

/-- Installing a configuration fails only where the tables refuse. -/
theorem spares_install {config : Config} :
    Spares held (install backend.recorded.table interface config)
      fun answer => ∀ failure, answer = .error failure →
        failure.code = .ipConfigurationFailed := by
  have gives : ∀ network, Spares held
      (backend.recorded.table.addAddress interface network)
      fun _ => True := fun network => spares_record fun _ => rfl
  have routes : ∀ network, Spares held
      (backend.recorded.table.addRoute interface network)
      fun _ => True := fun network => spares_record fun _ => rfl
  have nothing : Spares held (pure (.ok {}) :
      StateM (Recorded World Backend.Event) (Except Error Network.Pass))
      fun _ => True := settles_pure ⟨rfl, trivial⟩
  have refused : ∀ what error failure,
      (Except.error (Failure.causedBy .ipConfigurationFailed what error) :
        Except Failure Unit) = .error failure →
      failure.code = .ipConfigurationFailed := by
    rintro what error _ ⟨⟩
    rfl
  unfold install
  split
  case' isTrue =>
    refine Spares.bind nothing fun answer _ => ?_
  case' isFalse =>
    refine Spares.bind (spares_addAll gives _) fun answer _ => ?_
  -- Whether or not there were addresses to add, the routes come next.
  all_goals
    cases answer with
    | error error => exact settles_pure ⟨rfl, refused _ _⟩
    | ok _ =>
        refine Spares.bind (spares_addAll routes _) fun answer _ => ?_
        cases answer with
        | error error => exact settles_pure ⟨rfl, refused _ _⟩
        | ok _ => exact settles_pure ⟨rfl, nofun⟩

theorem spares_observe :
    Spares held (service.observe backend.recorded interface)
      fun after => after.roster = service.roster := by
  have reads : Spares held (backend.recorded.monitor.status interface)
      fun _ => True := spares_record fun _ => rfl
  refine Spares.bind spares_aside fun observer _ =>
    spares_enrolWith.bind ?_
  rintro ⟨observer, found⟩ -
  cases found with
  | enrolled =>
      exact reads.bind fun answer _ => Spares.bind spares_aside
        fun observer _ => settles_pure ⟨rfl, rfl⟩
  | settled => exact settles_pure ⟨rfl, rfl⟩
  | refused error => exact settles_pure ⟨rfl, rfl⟩

theorem spares_observeNew :
    Spares held (service.observeNew backend.recorded interface)
      fun after => after.roster = service.roster := by
  refine Spares.bind spares_aside fun observer _ => ?_
  dsimp only
  split
  · exact settles_pure ⟨rfl, rfl⟩
  · exact spares_observe

end Service

end Beside

/-! ## Calls -/

namespace Service

/--
Calls leave a sound service behind, of whose adapters the handles are held,
and found no adapter closed.
-/
structure IsServed (service : Service) (outcomes : List Outcome)
    (held : List Holding) : Prop where
  sound : service.IsSound
  held : held = service.held
  usable : ∀ failure, .error failure ∈ outcomes →
    failure.code ≠ .adapterInvalid

/-- One call leaves its service so. -/
abbrev IsOrderly (result : Service × Outcome) : List Holding → Prop :=
  IsServed result.1 [result.2]

section Calls

variable {World : Type} {backend : Backend (StateM World)}
  {service after : Service} {outcome : Outcome} {name : String}

/-- A call that leaves the roster as it is. -/
theorem settles_same (sound : service.IsSound)
    (same : after.roster = service.roster)
    (usable : ∀ failure, outcome = .error failure →
      failure.code ≠ .adapterInvalid) :
    Settles service.held
      (pure (after, outcome) :
        StateM (Recorded World Backend.Event) (Service × Outcome))
      IsOrderly :=
  settles_pure ⟨sound.congr same, (held_congr same).symm,
    fun failure failed =>
      usable failure (List.mem_singleton.1 failed).symm⟩

/-- A call that fails with a code of its own and changes nothing. -/
theorem settles_failed (sound : service.IsSound) {failure : Failure}
    (usable : failure.code ≠ .adapterInvalid) :
    Settles service.held
      (pure (service, .error failure) :
        StateM (Recorded World Backend.Event) (Service × Outcome))
      IsOrderly := by
  refine settles_same sound rfl ?_
  rintro _ ⟨⟩
  exact usable

theorem settles_nativeInit (sound : service.IsSound) :
    Settles service.held (service.nativeInit backend.recorded)
      IsOrderly := by
  have loads : Spares service.held backend.recorded.loadDriver
      fun _ => True := spares_record fun _ => rfl
  refine loads.bind fun answer _ => ?_
  cases answer with
  | ok driver => exact settles_same sound rfl nofun
  | error error => exact settles_failed sound ErrorCode.noConfusion

theorem find?_congr (same : after.roster = service.roster) :
    after.find? name = none ↔ service.find? name = none := by
  have unknown : ∀ service : Service, service.find? name = none ↔
      name ∉ service.roster.map Prod.fst := by
    intro service
    unfold find? roster
    rw [List.find?_eq_none, List.map_map]
    simp
  rw [unknown, unknown, same]

/-- A new name and a new handle are added at the end. -/
theorem isOrderly_append {driver : DriverId} {adapter : Adapter}
    {handle : Handle} (sound : service.IsSound)
    (unknown : service.find? adapter.name = none)
    (has : adapter.handle = some handle) :
    IsOrderly
      ({ service with
          adapters := service.adapters ++ [{ driver, adapter }] },
        .ok .done)
      (service.held ++ [⟨driver, handle⟩]) where
  sound := by
    refine ⟨?_, ?_⟩
    · dsimp only
      rw [List.map_append, List.nodup_append]
      refine ⟨sound.distinct, List.pairwise_singleton _ _, ?_⟩
      rintro name member other only rfl
      obtain ⟨known, present, rfl⟩ := List.mem_map.1 member
      have foreign := List.find?_eq_none.1 unknown known present
      exact foreign (decide_eq_true (List.mem_singleton.1 only))
    · intro known member
      rcases List.mem_append.1 member with old | new
      · exact sound.valid known old
      · obtain rfl := List.mem_singleton.1 new
        exact congrArg Option.isSome has
  held := by
    have holding : KnownAdapter.holding? ⟨driver, adapter⟩ =
        some ⟨driver, handle⟩ := by
      rw [KnownAdapter.holding?, has]
      rfl
    show _ = List.filterMap _ _
    rw [List.filterMap_append, List.filterMap_cons_some holding]
    rfl
  usable _ failed := nomatch List.mem_singleton.1 failed

theorem settles_setupTunnel (sound : service.IsSound) :
    Settles service.held (service.setupTunnel backend.recorded name)
      IsOrderly := by
  unfold setupTunnel
  cases service.driver with
  | none => exact settles_failed sound ErrorCode.noConfusion
  | some driver =>
      dsimp only
      cases found : service.find? name with
      | some known =>
          obtain ⟨handle, has, member⟩ := sound.exists_handle found
          refine (Adapter.spares_identifier has member).bind
            fun answer _ => ?_
          cases answer with
          | ok interface =>
              exact spares_observe.bind fun after same =>
                settles_same sound same nofun
          | error error => exact settles_same sound rfl nofun
      | none =>
          refine (Adapter.settles_acquire name).bind ?_
          rintro (error | adapter) held acquired
          · cases acquired
            exact settles_failed sound ErrorCode.noConfusion
          · obtain ⟨rfl, handle, has, rfl⟩ := acquired
            have member : (⟨driver, handle⟩ : Holding) ∈
                service.held ++ [⟨driver, handle⟩] :=
              List.mem_append_right _ List.mem_cons_self
            refine (Adapter.spares_identifier has member).bind
              fun answer _ => ?_
            cases answer with
            | ok interface =>
                refine spares_observe.bind fun after same => ?_
                rw [← held_congr same]
                exact settles_pure (isOrderly_append (sound.congr same)
                  ((find?_congr same).2 found) has)
            | error error =>
                exact settles_pure (isOrderly_append sound found has)

theorem applyCode_usable (error : Error) :
    applyCode error ≠ .adapterInvalid := by
  unfold applyCode
  split <;> exact ErrorCode.noConfusion

theorem settles_connect (sound : service.IsSound) (document : String) :
    Settles service.held (service.connect backend.recorded name document)
      IsOrderly := by
  unfold connect
  cases found : service.find? name with
  | none => exact settles_failed sound ErrorCode.noConfusion
  | some known =>
      obtain ⟨handle, has, member⟩ := sound.exists_handle found
      have valid := sound.valid known (mem_of_find? found)
      dsimp only
      rw [valid, Bool.not_true, if_neg Bool.false_ne_true]
      refine (Adapter.spares_apply document has member).bind ?_
      rintro ⟨applied, adapter⟩ ⟨sameName, sameHandle⟩
      dsimp only at sameName sameHandle ⊢
      have same : (service.replace adapter).roster = service.roster :=
        roster_replace (sameName ▸ name_of_find? found ▸ found) sameHandle
      cases applied with
      | error error =>
          refine settles_same sound same ?_
          rintro _ ⟨⟩
          exact applyCode_usable error
      | ok config =>
          refine (Adapter.spares_identifier (sameHandle.trans has)
            member).bind fun answer _ => ?_
          cases answer with
          | error error => exact settles_same sound same nofun
          | ok interface =>
              refine spares_install.bind fun installed refused => ?_
              cases installed with
              | error failure =>
                  refine settles_same sound same ?_
                  rintro _ ⟨⟩
                  rw [refused failure rfl]
                  exact ErrorCode.noConfusion
              | ok _ =>
                  exact spares_observeNew.bind fun after kept =>
                    settles_same sound (kept.trans same) nofun

theorem settles_disconnect (sound : service.IsSound) :
    Settles service.held (service.disconnect backend.recorded name)
      IsOrderly := by
  unfold disconnect
  cases found : service.find? name with
  | none => exact settles_failed sound ErrorCode.noConfusion
  | some known =>
      obtain ⟨handle, has, member⟩ := sound.exists_handle found
      have valid := sound.valid known (mem_of_find? found)
      dsimp only
      rw [valid, Bool.not_true, if_neg Bool.false_ne_true]
      refine (Adapter.spares_setState .down has member).bind
        fun lowered _ => ?_
      cases lowered with
      | error error => exact settles_failed sound ErrorCode.noConfusion
      | ok _ =>
          refine (Adapter.spares_identifier has member).bind
            fun answer _ => ?_
          cases answer with
          | error error => exact settles_same sound rfl nofun
          | ok interface =>
              exact spares_removeAllAddresses.bind fun _ _ =>
                spares_removeAllRoutes.bind fun _ _ =>
                  Spares.bind spares_aside fun observer _ =>
                    settles_same sound rfl nofun

theorem spares_adapterStatus (sound : service.IsSound) :
    Spares service.held (service.adapterStatus backend.recorded name)
      fun outcome => ∀ failure, outcome = .error failure →
        failure.code ≠ .adapterInvalid := by
  unfold adapterStatus
  cases found : service.find? name with
  | none => exact settles_pure ⟨rfl, nofun⟩
  | some known =>
      obtain ⟨handle, has, member⟩ := sound.exists_handle found
      have valid := sound.valid known (mem_of_find? found)
      have kept : (some known).filter (·.adapter.isValid) = some known :=
        Option.filter_some_pos valid
      rw [kept]
      refine (Adapter.spares_state has member).bind fun answer _ => ?_
      rcases answer with error | (_ | _)
      · refine settles_pure ⟨rfl, ?_⟩
        rintro _ ⟨⟩
        exact ErrorCode.noConfusion
      · exact settles_pure ⟨rfl, nofun⟩
      · exact settles_pure ⟨rfl, nofun⟩

theorem usable_of_required {arguments : Arguments} {failure : Failure}
    (missing : required arguments name = .error failure) :
    failure.code ≠ .adapterInvalid := by
  unfold required at missing
  split at missing <;> cases missing
  exact ErrorCode.noConfusion

theorem usable_of_ofName {method : String} {failure : Failure}
    (unknown : Method.ofName method = .error failure) :
    failure.code ≠ .adapterInvalid := by
  unfold Method.ofName at unknown
  split at unknown <;> cases unknown
  exact ErrorCode.noConfusion

theorem settles_withAdapter (sound : service.IsSound)
    {arguments : Arguments}
    {call : String →
      StateM (Recorded World Backend.Event) (Service × Outcome)}
    (settles : ∀ name, Settles service.held (call name) IsOrderly) :
    Settles service.held (service.withAdapter arguments call)
      IsOrderly := by
  unfold withAdapter
  split
  · next failure missing =>
      exact settles_failed sound (usable_of_required missing)
  · exact settles _

/-- A call, whatever its method and its arguments. -/
theorem settles_dispatch (sound : service.IsSound) (method : String)
    (arguments : Arguments) :
    Settles service.held
      (service.dispatch backend.recorded method arguments) IsOrderly := by
  unfold dispatch
  split
  · next failure unknown =>
      exact settles_failed sound (usable_of_ofName unknown)
  · next method _ =>
      cases method with
      | generateKeyPair =>
          have draws : Spares service.held
              (generateKeyPair backend.recorded) fun _ => True :=
            Spares.bind spares_aside fun _ _ => settles_pure ⟨rfl, trivial⟩
          exact draws.bind fun pair _ => settles_same sound rfl nofun
      | checkTunnelConfiguration => exact settles_same sound rfl nofun
      | nativeInit => exact settles_nativeInit sound
      | setupTunnel =>
          exact settles_withAdapter sound fun _ => settles_setupTunnel sound
      | connect =>
          refine settles_withAdapter sound fun name => ?_
          split
          · next failure missing =>
              exact settles_failed sound (usable_of_required missing)
          · exact settles_connect sound _
      | disconnect =>
          exact settles_withAdapter sound fun _ => settles_disconnect sound
      | status =>
          exact settles_withAdapter sound fun _ =>
            (spares_adapterStatus sound).bind fun outcome usable =>
              settles_same sound rfl usable

end Calls

/-! ## Closing -/

section Closing

variable {World : Type} {backend : Backend (StateM World)}
  {service : Service}

/-- Adapters are closed in the order in which their handles are held. -/
theorem settles_closeAll {adapters : List KnownAdapter}
    (valid : ∀ known ∈ adapters, known.adapter.isValid = true) :
    Settles (adapters.filterMap KnownAdapter.holding?)
      (closeAll backend.recorded adapters) fun _ held => held = [] := by
  induction adapters with
  | nil => exact settles_pure rfl
  | cons known rest ih =>
      obtain ⟨first, others⟩ := List.forall_mem_cons.1 valid
      obtain ⟨handle, has⟩ := Option.isSome_iff_exists.1 first
      have holding : known.holding? = some ⟨known.driver, handle⟩ := by
        rw [KnownAdapter.holding?, has]
        rfl
      rw [List.filterMap_cons_some holding]
      have released : Settles
          (⟨known.driver, handle⟩ :: rest.filterMap KnownAdapter.holding?)
          ((backend.recorded.driver known.driver).close handle)
          fun _ held => held = rest.filterMap KnownAdapter.holding? :=
        settles_record_closed fun _ => rfl
      have closed : Settles
          (⟨known.driver, handle⟩ :: rest.filterMap KnownAdapter.holding?)
          (known.adapter.close (backend.recorded.driver known.driver))
          fun _ held => held = rest.filterMap KnownAdapter.holding? := by
        unfold Adapter.close
        rw [has]
        exact released.bind fun _ held same => settles_pure same
      refine closed.bind ?_
      rintro _ _ rfl
      exact ih others

/-- Nothing is known, monitored or stored. -/
structure IsRetired (service : Service) : Prop where
  adapters : service.adapters = []
  watched : service.observer.watched = []
  stored : service.observer.stored = none

theorem IsRetired.isSound (retired : service.IsRetired) : service.IsSound where
  distinct := retired.adapters ▸ List.nodup_nil
  valid := retired.adapters ▸ nofun

theorem IsRetired.held (retired : service.IsRetired) : service.held = [] :=
  congrArg (List.filterMap _) retired.adapters

theorem settles_shutdown (sound : service.IsSound) :
    Settles service.held (service.shutdown backend.recorded)
      fun after held => held = [] ∧ after.IsRetired := by
  refine Spares.bind spares_aside fun observer _ =>
    (settles_closeAll sound.valid).bind ?_
  rintro _ _ rfl
  exact settles_pure ⟨rfl, rfl, Observer.release_watched _,
    Observer.release_stored _⟩

theorem settles_dispose (sound : service.IsSound) :
    Settles service.held (service.dispose backend.recorded)
      fun after held => held = [] ∧ after.IsRetired := by
  refine (settles_closeAll sound.valid).bind ?_
  rintro _ _ rfl
  exact settles_pure ⟨rfl, rfl, Observer.release_watched _,
    Observer.release_stored _⟩

end Closing

/-! ## Whole runs -/

section Runs

variable {World : Type} {backend : Backend (StateM World)}
  {service : Service}

/-- One move keeps the service sound and its handles held. -/
theorem settles_move (sound : service.IsSound) (move : Move) :
    Settles service.held (service.move backend.recorded move)
      fun result => IsServed result.1 result.2.toList := by
  cases move with
  | call method arguments =>
      exact (settles_dispatch sound method arguments).bind
        fun _ _ served => settles_pure served
  | shutdown =>
      refine (settles_shutdown sound).bind ?_
      rintro after _ ⟨rfl, retired⟩
      exact settles_pure ⟨retired.isSound, retired.held.symm, nofun⟩
  | observer action =>
      exact settles_pure ⟨sound.congr rfl, held_congr rfl, nofun⟩

/-- So do all moves of a run. -/
theorem settles_serve (sound : service.IsSound) (moves : List Move) :
    Settles service.held (serve backend.recorded service moves)
      fun result => IsServed result.1 result.2 := by
  induction moves generalizing service with
  | nil => exact settles_pure ⟨sound, rfl, nofun⟩
  | cons move rest ih =>
      refine (settles_move sound move).bind ?_
      rintro ⟨next, outcome⟩ _ ⟨sound, rfl, usable⟩
      refine (ih sound).bind ?_
      rintro ⟨after, outcomes⟩ _ ⟨sound, rfl, others⟩
      refine settles_pure ⟨sound, rfl, fun failure failed => ?_⟩
      exact (List.mem_append.1 failed).elim (usable failure) (others failure)

/-- What a service that has been served knows and holds. -/
theorem isServed_serve (backend : Backend (StateM World)) (start : World)
    (moves : List Move) :
    let result := (serve backend.recorded {} moves).run
      { world := start, journal := [] }
    enterAll [] (dealings result.2.journal) = some result.1.1.held ∧
      IsServed result.1.1 result.1.2 result.1.1.held := by
  have fresh : IsSound {} := ⟨List.nodup_nil, nofun⟩
  have nothing : enterAll []
      (dealings (Recorded.journal { world := start, journal := [] })) =
      some (held {}) := rfl
  obtain ⟨_, entered, sound, rfl, usable⟩ :=
    (settles_serve fresh moves).run nothing
  exact ⟨entered, sound, rfl, usable⟩

end Runs

/-- Something is known if the adapter that was set up last can be used. -/
theorem checkTunnelConfiguration_iff {service : Service}
    (sound : service.IsSound) :
    service.checkTunnelConfiguration = true ↔ service.adapters ≠ [] := by
  unfold checkTunnelConfiguration
  constructor
  · rintro usable empty
    rw [empty] at usable
    cases usable
  · intro known
    rw [List.getLast?_eq_some_getLast known]
    exact sound.valid _ (List.getLast_mem known)

/--
Whatever a service is asked, and whatever drivers, tables and monitors answer,
the names of its adapters differ, none of them is closed, and no call ever
finds one closed.  The handles that were given and not closed are those of the
adapters, and none was used or closed while it was not held.  A service that
is shut down or goes away has closed all handles.
-/
theorem registry_accounts {World : Type} (backend : Backend (StateM World))
    (world : World) (moves : List Move) :
    let result := (serve backend.recorded {} moves).run
      { world, journal := [] }
    let service := result.1.1
    let down := (service.shutdown backend.recorded).run result.2
    let gone := (service.dispose backend.recorded).run result.2
    (service.adapters.map (·.adapter.name)).Nodup ∧
      (∀ known ∈ service.adapters, known.adapter.isValid = true) ∧
      (∀ failure, .error failure ∈ result.1.2 →
        failure.code ≠ .adapterInvalid) ∧
      IsBalanced (dealings result.2.journal) service.held ∧
      (∀ arguments, ((service.dispatch backend.recorded
          "checkTunnelConfiguration" arguments).run result.2).1.2 =
        .ok (.flag (!service.adapters.isEmpty))) ∧
      (down.1.IsRetired ∧ IsBalanced (dealings down.2.journal) []) ∧
      (gone.1.IsRetired ∧ IsBalanced (dealings gone.2.journal) []) := by
  intro result service down gone
  obtain ⟨entered, sound, -, usable⟩ := isServed_serve backend world moves
  obtain ⟨_, downward, rfl, retired⟩ := (settles_shutdown sound).run entered
  obtain ⟨_, onward, rfl, disposed⟩ := (settles_dispose sound).run entered
  refine ⟨sound.distinct, sound.valid, usable,
    isBalanced_of_enterAll entered, fun arguments => ?_,
    ⟨retired, isBalanced_of_enterAll downward⟩,
    ⟨disposed, isBalanced_of_enterAll onward⟩⟩
  have known := checkTunnelConfiguration_iff sound
  show Except.ok (Reply.flag service.checkTunnelConfiguration) = _
  congr 2
  rw [Bool.eq_iff_iff, Bool.not_eq_true', List.isEmpty_eq_false_iff]
  exact known

end Service

end Tunnel
