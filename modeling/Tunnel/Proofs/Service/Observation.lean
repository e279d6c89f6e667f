import Tunnel.Proofs.Watch.Ownership
import Tunnel.Service.Basic

/-!
# Which calls leave an adapter observed

A call that observes an interface watches it, and subscribes again when the
consumer at hand is dead.  Setting up an adapter that is known always observes
its interface.  Connecting does so only when the interface is not watched: of
one that is watched the subscription stays as it is, dead or alive.
-/

namespace Tunnel

/-! ## What goes on beside a call -/

namespace Watch

/-- A section of a consumer, or news of the monitor. -/
def Action.isBackground : Action → Bool
  | .publish _ | .notify _ => true
  | action => action.consumer?.isSome

end Watch

namespace Observer

open Watch

/-- One state comes after another without a call in between. -/
def Follows (before after : Observer) : Prop :=
  ∃ actions : List Action, (∀ action ∈ actions, action.isBackground = true) ∧
    performed before actions = after

section Follows

variable {before after : Observer} {action : Action}

theorem isSubscribed_of_isRunning (stored : after.stored = before.stored)
    (running : ∀ handle, after.isRunning handle = true →
      before.isRunning handle = true)
    (subscribed : after.isSubscribed = true) :
    before.isSubscribed = true := by
  obtain ⟨handle, consumer, held, found, busy⟩ :=
    after.isSubscribed_iff.1 subscribed
  rw [stored] at held
  rw [isSubscribed_of_stored held]
  exact running handle ((has_of_getElem? found).trans busy)

/-- Consumers do not decide what is watched, and none comes to life. -/
theorem kept_of_isBackground (effect : Effect before action after)
    (background : action.isBackground = true) :
    after.watched = before.watched ∧
      (after.isSubscribed = true → before.isSubscribed = true) := by
  cases effect with
  | progress own found running kept =>
      exact ⟨rfl, isSubscribed_of_isRunning rfl fun _ =>
        isRunning_setConsumer found running⟩
  | publish found stands =>
      refine ⟨publish_watched _ _ _,
        isSubscribed_of_isRunning (publish_stored _ _ _)
          fun handle running => ?_⟩
      rw [isRunning, has_publish] at running
      exact isRunning_setConsumer found
        (isRunning_of_phase stands Phase.noConfusion) running
  | notify =>
      refine ⟨rfl, isSubscribed_of_isRunning rfl fun handle running => ?_⟩
      rw [isRunning, has_notify fun consumer => ?_] at running
      · exact running
      · unfold Consumer.isRunning
        rw [Consumer.deliver_phase]
  | _ => cases background

theorem Follows.kept (follows : before.Follows after) :
    after.watched = before.watched ∧
      (after.isSubscribed = true → before.isSubscribed = true) := by
  obtain ⟨actions, background, rfl⟩ := follows
  induction actions generalizing before with
  | nil => exact ⟨rfl, id⟩
  | cons action rest ih =>
      rw [performed]
      split
      · next next happens =>
          obtain ⟨watched, alive⟩ := kept_of_isBackground
            (effect_of_step happens) (background action List.mem_cons_self)
          obtain ⟨rests, lives⟩ :=
            ih fun other member =>
              background other (List.mem_cons_of_mem _ member)
          exact ⟨rests.trans watched, fun subscribed =>
            alive (lives subscribed)⟩
      · exact ⟨rfl, id⟩

end Follows

end Observer

/-! ## Answers in every world -/

section Always

variable {World α β : Type}

/-- Whatever the world, what an operation answers has a property. -/
def Always (operation : StateM World α) (property : α → Prop) : Prop :=
  ∀ world, property (operation.run world).1

variable {operation : StateM World α} {property : α → Prop}

theorem always_pure {value : α} (holds : property value) :
    Always (pure value : StateM World α) property :=
  fun _ => holds

theorem Always.bind {next : α → StateM World β} {after : β → Prop}
    (first : Always operation property)
    (follows : ∀ value, property value → Always (next value) after) :
    Always (operation >>= next) after :=
  fun world => follows _ (first world) (operation.run world).2

theorem always_bind {next : α → StateM World β} {after : β → Prop}
    (follows : ∀ value, Always (next value) after) :
    Always (operation >>= next) after :=
  fun world => follows _ (operation.run world).2

end Always

/-! ## Observing -/

/--
The monitor accepts subscriptions, and while a call runs consumers do what
they do but no subscription ends.
-/
structure Backend.IsSteady {World : Type} (backend : Backend (StateM World)) :
    Prop where
  accepts : Always backend.monitor.subscribe
    fun answer => ∃ source, answer = .ok source
  follows : ∀ observer, Always (backend.meanwhile observer) observer.Follows
  lasts : ∀ observer : Observer, observer.isSubscribed = true →
    Always (backend.meanwhile observer) (·.isSubscribed = true)

namespace Observer

/-- An interface is watched and the subscription is alive. -/
def Observes (observer : Observer) (interface : InterfaceId) : Prop :=
  interface ∈ observer.watched ∧ observer.isSubscribed = true

section Observes

variable {observer : Observer} {interface : InterfaceId}

theorem isSubscribed_congr {other : Observer}
    (stored : other.stored = observer.stored)
    (consumers : other.consumers = observer.consumers) :
    other.isSubscribed = observer.isSubscribed := by
  unfold isSubscribed
  rw [stored, consumers]

theorem isSubscribed_spawn (source : Nat) :
    (observer.spawn source).isSubscribed = true := by
  unfold isSubscribed spawn
  dsimp only
  rw [List.getElem?_concat_length]
  rfl

theorem observes_insert (subscribed : observer.isSubscribed = true) :
    (observer.insert interface).Observes interface :=
  ⟨observer.mem_insert.2 (Or.inr rfl),
    (isSubscribed_congr (observer.insert_stored _)
      (observer.insert_consumers _)).trans subscribed⟩

theorem Observes.publish (observes : observer.Observes interface)
    (status : OperStatus) :
    (observer.publish interface status).Observes interface := by
  obtain ⟨watched, subscribed⟩ := observes
  constructor
  · rw [publish_watched]
    exact watched
  · rw [isSubscribed_congr (publish_stored _ _ _) (publish_consumers _ _ _)]
    exact subscribed

/-- A start observes its interface, unless it needs a subscription in vain. -/
theorem observes_enrol {answer : Except Error Nat}
    (able : observer.isSubscribed = true ∨ ∃ source, answer = .ok source) :
    (observer.enrol interface answer).1.Observes interface := by
  cases subscribed : observer.isSubscribed with
  | true =>
      by_cases member : interface ∈ observer.watched
      · rw [enrol_settled subscribed member]
        exact ⟨member, subscribed⟩
      · rw [enrol_joined subscribed member]
        exact observes_insert subscribed
  | false =>
      obtain ⟨source, rfl⟩ :=
        able.resolve_left (ne_true_of_eq_false subscribed)
      rw [enrol_spawned subscribed]
      exact observes_insert (isSubscribed_spawn source)

end Observes

end Observer

section Steady

variable {World : Type} {backend : Backend (StateM World)}
  {observer : Observer} {interface : InterfaceId}

/-- What a call does not do itself leaves the subscription as it is. -/
theorem Backend.IsSteady.kept (steady : backend.IsSteady) :
    Always (backend.meanwhile observer) fun after =>
      after.watched = observer.watched ∧
        (after.isSubscribed = true ↔ observer.isSubscribed = true) := by
  intro world
  obtain ⟨watched, alive⟩ := (steady.follows observer world).kept
  exact ⟨watched, alive, fun subscribed =>
    steady.lasts observer subscribed world⟩

theorem always_enrolWith (steady : backend.IsSteady) :
    Always (observer.enrolWith backend.monitor interface)
      fun found => found.1.Observes interface := by
  unfold Observer.enrolWith
  split
  · next subscribed =>
      exact always_pure (Observer.observes_enrol (Or.inl subscribed))
  · exact steady.accepts.bind fun answer accepted =>
      always_pure (Observer.observes_enrol (Or.inr accepted))

end Steady

namespace Service

variable {World : Type} {backend : Backend (StateM World)}
  {service : Service} {interface : InterfaceId}

/-- Observing an interface leaves it observed. -/
theorem always_observe (steady : backend.IsSteady) :
    Always (service.observe backend interface)
      (·.observer.Observes interface) := by
  refine always_bind fun observer => (always_enrolWith steady).bind ?_
  rintro ⟨observer, found⟩ observes
  dsimp only at observes
  cases found with
  | enrolled =>
      refine always_bind fun answer => steady.kept.bind ?_
      rintro after ⟨watched, subscribed⟩
      have observes : after.Observes interface :=
        ⟨watched ▸ observes.1, subscribed.2 observes.2⟩
      exact always_pure (observes.publish _)
  | settled => exact always_pure observes
  | refused error => exact always_pure observes

/-- Setting up an adapter that is known leaves its interface observed. -/
theorem always_setupTunnel (steady : backend.IsSteady) {name : String}
    {driver : DriverId} {known : KnownAdapter}
    (loaded : service.driver = some driver)
    (found : service.find? name = some known)
    (readable : Always
      (known.adapter.identifier (backend.driver known.driver))
      (· = .ok interface)) :
    Always (service.setupTunnel backend name) fun result =>
      result.2 = .ok .done ∧ result.1.observer.Observes interface := by
  unfold setupTunnel
  rw [loaded]
  dsimp only
  rw [found]
  refine readable.bind ?_
  rintro _ rfl
  exact (always_observe steady).bind fun after observes =>
    always_pure ⟨rfl, observes⟩

/-- An interface that is watched keeps the subscription that there is. -/
theorem always_observeNew (steady : backend.IsSteady) :
    Always (service.observeNew backend interface) fun after =>
      interface ∈ after.observer.watched ∧
        (after.observer.isSubscribed = true ↔
          interface ∉ service.observer.watched ∨
            service.observer.isSubscribed = true) := by
  refine steady.kept.bind ?_
  rintro observer ⟨watched, subscribed⟩
  dsimp only
  split
  · next watching =>
      -- The set alone decides: nobody asks whether the consumer is alive.
      have member := observer.isWatching_iff.1 watching
      refine always_pure ⟨member, subscribed.trans ?_⟩
      rw [watched] at member
      exact (or_iff_right (not_not_intro member)).symm
  · next unwatched =>
      rw [Observer.isWatching_iff, watched] at unwatched
      intro world
      obtain ⟨member, lives⟩ := always_observe steady world
      exact ⟨member, iff_of_true lives (Or.inl unwatched)⟩

end Service

namespace Adapter

variable {World : Type} {driver : Driver (StateM World)} {adapter : Adapter}

/-- Applying a document keeps the handle. -/
theorem always_apply_handle (document : String) :
    Always (adapter.apply driver document) (·.2.handle = adapter.handle) := by
  unfold apply
  split
  · exact always_pure rfl
  · next handle held =>
      split
      · exact always_pure rfl
      · refine always_bind fun taken => ?_
        split
        · exact always_pure rfl
        · refine always_bind fun raised => ?_
          split <;> exact always_pure rfl

theorem identifier_congr {other : Adapter}
    (same : other.handle = adapter.handle) :
    other.identifier driver = adapter.identifier driver := by
  unfold identifier withHandle
  rw [same]

end Adapter

namespace Service

variable {World : Type} {backend : Backend (StateM World)}
  {service : Service} {interface : InterfaceId}

/--
After connecting an adapter its interface is watched.  The subscription is
alive exactly if it was before or the interface was not watched.
-/
theorem connect_observes (steady : backend.IsSteady) {name document : String}
    {known : KnownAdapter} (found : service.find? name = some known)
    (readable : Always
      (known.adapter.identifier (backend.driver known.driver))
      (· = .ok interface)) :
    Always (service.connect backend name document) fun result =>
      result.2 = .ok .done →
        interface ∈ result.1.observer.watched ∧
          (result.1.observer.isSubscribed = true ↔
            interface ∉ service.observer.watched ∨
              service.observer.isSubscribed = true) := by
  unfold connect
  rw [found]
  dsimp only
  split
  · exact always_pure nofun
  · refine (Adapter.always_apply_handle document).bind ?_
    rintro ⟨applied, adapter⟩ same
    cases applied with
    | error error => exact always_pure nofun
    | ok config =>
        dsimp only
        rw [Adapter.identifier_congr same]
        refine readable.bind ?_
        rintro _ rfl
        refine always_bind fun installed => ?_
        cases installed with
        | error failure => exact always_pure nofun
        | ok _ =>
            refine (always_observeNew steady).bind fun after observed => ?_
            exact always_pure fun _ => observed

/-! ## A dead consumer -/

/-- A backend with one adapter, on which everything succeeds. -/
def willing : Backend (StateM Unit) where
  loadDriver := return .ok ⟨0⟩
  driver _ :=
    { create := fun _ _ => return .ok ⟨1⟩
      openExisting := fun _ => return .ok ⟨1⟩
      close := fun _ => return ()
      setState := fun _ _ => return .ok ()
      state := fun _ => return .ok .up
      setConfiguration := fun _ _ => return .ok ()
      configuration := fun _ _ => return (.ok 0, [])
      identifier := fun _ => return .ok ⟨1⟩
      setLogging := fun _ _ => return .ok () }
  table :=
    { addAddress := fun _ _ => return .ok ()
      addresses := return .ok []
      deleteAddress := fun _ => return .ok ()
      addRoute := fun _ _ => return .ok ()
      routes := return .ok []
      deleteRoute := fun _ => return .ok () }
  monitor := { subscribe := return .ok 1, status := fun _ => return .ok .up }
  entropy := return ⟨List.replicate 32 0, rfl⟩
  meanwhile observer := return observer

theorem willing_isSteady : willing.IsSteady where
  accepts := always_pure ⟨1, rfl⟩
  follows _ := always_pure ⟨[], nofun, rfl⟩
  lasts _ subscribed := always_pure subscribed

/-- The service once the driver is loaded and an adapter is set up. -/
def attentive : Service :=
  let loaded := ((nativeInit willing {}).run ()).1.1
  ((loaded.setupTunnel willing "wg0").run ()).1.1

/-- The same service once its consumer could not subscribe again. -/
def deaf : Service :=
  { attentive with
    observer := Watch.performed attentive.observer
      [.endSource 0, .noticeEnd 0, .leave 0,
        .resubscribe 0 (.error .unavailable)] }

theorem connect_observes_attentive :
    let result := ((attentive.connect willing "wg0" "").run ()).1
    result.2 = .ok .done ∧ ⟨1⟩ ∈ result.1.observer.watched ∧
      (result.1.observer.isSubscribed = true ↔
        ⟨1⟩ ∉ attentive.observer.watched ∨
          attentive.observer.isSubscribed = true) :=
  ⟨rfl, connect_observes willing_isSteady rfl (fun _ => rfl) () rfl⟩

/-- Connecting succeeds while nothing is heard of the adapter any more. -/
theorem connect_leaves_deaf :
    let result := ((deaf.connect willing "wg0" "").run ()).1
    attentive.observer.Follows deaf.observer ∧ result.2 = .ok .done ∧
      ⟨1⟩ ∈ result.1.observer.watched ∧
      result.1.observer.isSubscribed = false :=
  ⟨⟨_, by decide, rfl⟩, rfl, by decide, rfl⟩

end Service

end Tunnel
