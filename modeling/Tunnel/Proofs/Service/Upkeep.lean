import Tunnel.Proofs.Service.Observation
import Tunnel.Proofs.Service.Registry

/-!
# What a service keeps up

A property of observers that no action of the observer takes away, and that
depends on the watched set, on the stored consumer and on the consumers alone,
is kept by everything a service does: by every call, by a shutdown and by what
goes on in between.  So it is enough to look at the observer, one effect at a
time, to know something of every service that has been served.
-/

namespace Tunnel

section Beside

variable {World Event α : Type} {operation : StateM World α}
  {property : α → Prop}

/-- A journal does not change what goes on beside a call. -/
theorem Always.aside (always : Always operation property) :
    Always (aside operation : StateM (Recorded World Event) α) property :=
  fun recorded => always recorded.world

theorem Service.always_withAdapter {service : Service}
    {arguments : Arguments}
    {call : String → StateM World (Service × Outcome)}
    {property : Service × Outcome → Prop}
    (same : ∀ outcome, property (service, outcome))
    (calls : ∀ name, Always (call name) property) :
    Always (service.withAdapter arguments call) property := by
  unfold withAdapter
  split
  · exact always_pure (same _)
  · exact calls _

end Beside

/-- While a call runs, consumers do what they do. -/
def Backend.IsPaced {World : Type} (backend : Backend (StateM World)) : Prop :=
  ∀ observer, Always (backend.meanwhile observer) observer.Follows

theorem Backend.IsPaced.recorded {World : Type}
    {backend : Backend (StateM World)} (paced : backend.IsPaced) :
    backend.recorded.IsPaced :=
  fun observer => (paced observer).aside

/-! ## The observer -/

/-- A property that an observer does not lose by itself. -/
structure Observer.IsUpkept (Holds : Observer → Prop) : Prop where
  effect : ∀ {before after : Observer} {action : Watch.Action},
    Holds before → Watch.Effect before action after → Holds after
  reap : ∀ {observer : Observer}, Holds observer → Holds observer.reap
  congr : ∀ {before after : Observer}, Holds before →
    after.watched = before.watched → after.stored = before.stored →
    after.consumers = before.consumers → Holds after

namespace Observer.IsUpkept

open Service (Arguments Move Outcome)

variable {Holds : Observer → Prop} (upkept : IsUpkept Holds)

section Own

variable {observer after : Observer} {interface : InterfaceId}

include upkept

theorem performed (holds : Holds observer) (actions : List Watch.Action) :
    Holds (Watch.performed observer actions) := by
  induction actions generalizing observer with
  | nil => exact holds
  | cons action rest ih =>
      rw [Watch.performed]
      split
      · next next happens =>
          exact ih (upkept.effect holds (Watch.effect_of_step happens))
      · exact holds

theorem follows (holds : Holds observer)
    (follows : observer.Follows after) : Holds after := by
  obtain ⟨actions, -, rfl⟩ := follows
  exact upkept.performed holds actions

theorem step (holds : Holds observer) (action : Watch.Action) :
    Holds ((observer.step action).getD observer) := by
  cases happens : observer.step action with
  | none => exact holds
  | some next => exact upkept.effect holds (Watch.effect_of_step happens)

/-- The first section of a start does what the start does as an action. -/
theorem enrol (holds : Holds observer) (answer : Except Error Nat) :
    Holds (observer.enrol interface answer).1 := by
  have stepped := upkept.step holds (.enrol interface answer)
  rw [Observer.step] at stepped
  generalize observer.enrol interface answer = result at stepped ⊢
  obtain ⟨after, found⟩ := result
  cases found <;> exact upkept.congr stepped rfl rfl rfl

theorem publish {status : OperStatus} (holds : Holds observer) :
    Holds (observer.publish interface status) :=
  upkept.congr holds (publish_watched _ _ _) (publish_stored _ _ _)
    (publish_consumers _ _ _)

theorem stop (holds : Holds observer) : Holds (observer.stop interface) :=
  upkept.reap
    (upkept.effect holds (Watch.effect_of_withdraw observer interface))

theorem stopAll (holds : Holds observer) : Holds observer.stopAll :=
  upkept.reap (upkept.effect holds Watch.Effect.withdrawAll)

end Own

/-! ## The calls -/

section Calls

variable {World : Type} {backend : Backend (StateM World)}
  {service : Service} {interface : InterfaceId}

include upkept

theorem meanwhile {observer : Observer} (paced : backend.IsPaced)
    (holds : Holds observer) :
    Always (backend.meanwhile observer) Holds :=
  fun world => upkept.follows holds (paced observer world)

theorem enrolWith {observer : Observer} (holds : Holds observer) :
    Always (observer.enrolWith backend.monitor interface) (Holds ·.1) := by
  unfold Observer.enrolWith
  split
  · exact always_pure (upkept.enrol holds _)
  · exact always_bind fun answer => always_pure (upkept.enrol holds _)

theorem observe (paced : backend.IsPaced)
    (holds : Holds service.observer) :
    Always (service.observe backend interface) (Holds ·.observer) := by
  refine (upkept.meanwhile paced holds).bind fun observer holds =>
    (upkept.enrolWith holds).bind ?_
  rintro ⟨observer, found⟩ holds
  cases found with
  | enrolled =>
      exact always_bind fun answer =>
        (upkept.meanwhile paced holds).bind fun observer holds =>
          always_pure (upkept.publish holds)
  | settled => exact always_pure holds
  | refused error => exact always_pure holds

theorem observeNew (paced : backend.IsPaced)
    (holds : Holds service.observer) :
    Always (service.observeNew backend interface) (Holds ·.observer) := by
  refine (upkept.meanwhile paced holds).bind fun observer holds => ?_
  dsimp only
  split
  · exact always_pure holds
  · exact upkept.observe paced holds

theorem setupTunnel (paced : backend.IsPaced)
    (holds : Holds service.observer) (name : String) :
    Always (service.setupTunnel backend name)
      (Holds ·.1.observer) := by
  have same : ∀ outcome, Always
      (pure (service, outcome) : StateM World (Service × Outcome))
      (Holds ·.1.observer) := fun _ => always_pure holds
  unfold Service.setupTunnel
  split
  · exact same _
  · split
    · refine always_bind fun answer => ?_
      cases answer with
      | error error => exact same _
      | ok interface =>
          exact (upkept.observe paced holds).bind fun after holds =>
            always_pure holds
    · refine always_bind fun answer => ?_
      cases answer with
      | error error => exact same _
      | ok adapter =>
          refine always_bind fun answer => ?_
          cases answer with
          | error error => exact always_pure holds
          | ok interface =>
              exact (upkept.observe paced holds).bind fun after holds =>
                always_pure holds

theorem connect (paced : backend.IsPaced)
    (holds : Holds service.observer) (name document : String) :
    Always (service.connect backend name document)
      (Holds ·.1.observer) := by
  unfold Service.connect
  split
  · exact always_pure holds
  · split
    · exact always_pure holds
    · refine always_bind ?_
      rintro ⟨applied, adapter⟩
      have kept : Holds (service.replace adapter).observer := holds
      have replaced : ∀ outcome, Always
          (pure (service.replace adapter, outcome) :
            StateM World (Service × Outcome))
          (Holds ·.1.observer) := fun _ => always_pure kept
      cases applied with
      | error error => exact replaced _
      | ok config =>
          refine always_bind fun answer => ?_
          cases answer with
          | error error => exact replaced _
          | ok interface =>
              refine always_bind fun installed => ?_
              cases installed with
              | error failure => exact replaced _
              | ok _ =>
                  exact (upkept.observeNew paced kept).bind
                    fun after holds => always_pure holds

theorem disconnect (paced : backend.IsPaced)
    (holds : Holds service.observer) (name : String) :
    Always (service.disconnect backend name) (Holds ·.1.observer) := by
  unfold Service.disconnect
  split
  · exact always_pure holds
  · split
    · exact always_pure holds
    · refine always_bind fun lowered => ?_
      cases lowered with
      | error error => exact always_pure holds
      | ok _ =>
          refine always_bind fun answer => ?_
          cases answer with
          | error error => exact always_pure holds
          | ok interface =>
              exact always_bind fun _ => always_bind fun _ =>
                (upkept.meanwhile paced holds).bind fun observer holds =>
                  always_pure (upkept.stop holds)

theorem dispatch (paced : backend.IsPaced)
    (holds : Holds service.observer) (method : String)
    (arguments : Arguments) :
    Always (service.dispatch backend method arguments)
      (Holds ·.1.observer) := by
  have same : ∀ outcome, Always
      (pure (service, outcome) : StateM World (Service × Outcome))
      (Holds ·.1.observer) := fun _ => always_pure holds
  unfold Service.dispatch
  split
  · exact same _
  · next method _ =>
      cases method with
      | generateKeyPair => exact always_bind fun _ => same _
      | checkTunnelConfiguration => exact same _
      | nativeInit =>
          refine always_bind fun answer => ?_
          cases answer <;> exact always_pure holds
      | setupTunnel =>
          exact Service.always_withAdapter (fun _ => holds)
            (upkept.setupTunnel paced holds)
      | connect =>
          refine Service.always_withAdapter (fun _ => holds) fun name => ?_
          split
          · exact same _
          · exact upkept.connect paced holds name _
      | disconnect =>
          exact Service.always_withAdapter (fun _ => holds)
            (upkept.disconnect paced holds)
      | status =>
          exact Service.always_withAdapter (fun _ => holds)
            fun _ => always_bind fun _ => same _

theorem shutdown (paced : backend.IsPaced)
    (holds : Holds service.observer) :
    Always (service.shutdown backend) (Holds ·.observer) := by
  refine (upkept.meanwhile paced holds).bind fun observer holds => ?_
  exact always_bind fun _ => always_pure (upkept.stopAll holds)

theorem move (paced : backend.IsPaced)
    (holds : Holds service.observer) (move : Move) :
    Always (service.move backend move) (Holds ·.1.observer) := by
  cases move with
  | call method arguments =>
      exact (upkept.dispatch paced holds method arguments).bind
        fun _ holds => always_pure holds
  | shutdown =>
      exact (upkept.shutdown paced holds).bind fun _ holds => always_pure holds
  | observer action => exact always_pure (upkept.step holds action)

theorem serve (paced : backend.IsPaced)
    (holds : Holds service.observer) (moves : List Move) :
    Always (Service.serve backend service moves) (Holds ·.1.observer) := by
  induction moves generalizing service with
  | nil => exact always_pure holds
  | cons move rest ih =>
      exact (upkept.move paced holds move).bind fun _ holds =>
        (ih holds).bind fun _ holds => always_pure holds

end Calls

end Observer.IsUpkept

end Tunnel
