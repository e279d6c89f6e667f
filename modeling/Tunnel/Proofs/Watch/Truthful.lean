import Mathlib.Logic.Function.Basic
import Tunnel.Proofs.Watch.Ahead
import Tunnel.Proofs.Watch.Ownership
import Tunnel.Proofs.Watch.Publication
import Tunnel.Watch.Schedule

/-!
# Truthful monitors

An observer knows of interfaces what its monitor says.  A monitor is truthful
when a status that is read is the one the interface has at that moment, and
when every change is told to all subscriptions at the moment it happens, with
the new status or without it.

A history of moments records the statuses beside the transitions, so that an
event can be compared with the status of its interface when it was published
and later on.
-/

namespace Tunnel

namespace Observer

open Watch

/-- What is published while a listener is attached is heard. -/
theorem publish_heard {observer : Observer} {interface : InterfaceId}
    {status : OperStatus}
    (heard : (observer.publish interface status).sink = .attached)
    (member : interface ∈ observer.watched) :
    (observer.publish interface status).outbox =
      observer.outbox ++ [{ status := status.connection, interface }] := by
  have watching := observer.isWatching_iff.2 member
  unfold publish at heard ⊢
  rw [if_pos watching] at heard ⊢
  unfold emit at heard ⊢
  split
  · rfl
  · next abandoned =>
      rw [abandoned] at heard
      cases heard
  · next detached =>
      rw [detached] at heard
      cases detached.symm.trans heard

end Observer

namespace Watch

/-! ## Truthful runs -/

/-- A transition, with the statuses of all interfaces after it. -/
structure Moment where
  statuses : Statuses
  transition : Transition

/-- Something that happens to an observer or to an interface. -/
inductive Occurrence
  | acts (action : Action)
  /-- An interface changes its status, and the monitor says that it did. -/
  | changes (change : InterfaceChange) (status : OperStatus)

namespace Occurrence

/-- What an occurrence is to the observer. -/
def action : Occurrence → Action
  | acts action => action
  | changes change _ => .notify change

/-- The statuses after an occurrence. -/
def statuses (before : Statuses) : Occurrence → Statuses
  | acts _ => before
  | changes change status =>
      Function.update before change.interface status

end Occurrence

/-- The interface whose status a consumer waits for. -/
def Phase.awaited? : Phase → Option InterfaceId
  | .reading interface _ => some interface
  | _ => none

/-- The interface that a start is to watch. -/
def Action.started? : Action → Option InterfaceId
  | .enrol interface _ => some interface
  | _ => none

/-- Who reads a status of which interface by an action, and what is read. -/
def Action.reading? (observer : Observer) :
    Action → Option (Activity × InterfaceId × OperStatus)
  | .startReads number status =>
      (observer.start? number).map fun start =>
        (.start number, start.interface, status)
  | .read index status =>
      (observer.consumers[index]?.bind (·.phase.awaited?)).map
        (.consumer index, ·, status)
  | _ => none

/-- A consumer reads what it waits for. -/
theorem reading?_read {observer : Observer} {index : Nat}
    {consumer : Consumer} {interface : InterfaceId} {status : OperStatus}
    (found : observer.consumers[index]? = some consumer)
    (waits : consumer.phase.awaited? = some interface) :
    (Action.read index status).reading? observer =
      some (.consumer index, interface, status) :=
  Option.map_eq_some_iff.2 ⟨interface,
    Option.bind_eq_some_iff.2 ⟨consumer, found, waits⟩, rfl⟩

/-- What an action says of the status of an interface. -/
def Action.said? (observer : Observer) :
    Action → Option (InterfaceId × OperStatus)
  | .notify change | .deliver _ change =>
      change.status.map (change.interface, ·)
  | action => (action.reading? observer).map Prod.snd

/-- What an action says of a status is so. -/
def Action.IsTruthful (statuses : Statuses) (observer : Observer)
    (action : Action) : Prop :=
  ∀ said ∈ action.said? observer, said.2 = statuses said.1

instance (statuses : Statuses) (observer : Observer) (action : Action) :
    Decidable (action.IsTruthful statuses observer) :=
  inferInstanceAs (Decidable (∀ said ∈ action.said? observer, _))

/-- The status that truthful news carries. -/
theorem carries_of_truthful {statuses : Statuses} {change : InterfaceChange}
    (truthful : ∀ said ∈ change.status.map (change.interface, ·),
      said.2 = statuses said.1) (status : OperStatus)
    (carried : change.status = some status) :
    status = statuses change.interface :=
  truthful (change.interface, status)
    (Option.map_eq_some_iff.2 ⟨status, carried, rfl⟩)

/-- What has happened, the statuses now, and how the observer stands. -/
inductive TruthfulRun : List Moment → Statuses → Observer → Prop
  | created (statuses : Statuses) : TruthfulRun [] statuses {}
  | step {history statuses observer next} (occurrence : Occurrence)
      (run : TruthfulRun history statuses observer)
      (truthful : occurrence.action.IsTruthful
        (occurrence.statuses statuses) observer)
      (happens : observer.step occurrence.action = some next) :
      TruthfulRun
        (history ++
          [⟨occurrence.statuses statuses,
            ⟨observer, occurrence.action, next⟩⟩])
        (occurrence.statuses statuses) next

/-- Every truthful run is a run. -/
theorem TruthfulRun.run {history : List Moment} {statuses : Statuses}
    {observer : Observer} (run : TruthfulRun history statuses observer) :
    Run (history.map Moment.transition) observer := by
  induction run with
  | created => exact Run.created
  | step occurrence _ _ happens ih =>
      rw [List.map_append]
      exact ih.step happens

/-! ## What is heard of an interface -/

namespace Moment

/-- A listener is attached. -/
def IsHeard (moment : Moment) : Prop :=
  moment.transition.after.sink = .attached

/-- An interface is neither inserted nor published. -/
def IsSilentOn (moment : Moment) (interface : InterfaceId) : Prop :=
  ¬ moment.transition.Inserts interface ∧
    ∀ status, ¬ moment.transition.Puts ⟨status, interface⟩

/--
An event is outdated when it is put on the sink, by a start, or by a consumer
that was handed over.
-/
def IsOvertaken (moment : Moment) (event : StatusEvent) : Prop :=
  event.status ≠ (moment.statuses event.interface).connection ∧
    ((∃ number, moment.transition.action = .startPublishes number) ∨
      ∃ handle, moment.transition.action = .publish handle ∧
        moment.transition.before.isReleased handle = true)

/-- An event is put on the sink that is right by some statuses, or overtaken. -/
def Reports (moment : Moment) (statuses : Statuses)
    (interface : InterfaceId) : Prop :=
  ∃ status, moment.transition.Puts ⟨status, interface⟩ ∧
    (status = (statuses interface).connection ∨
      moment.IsOvertaken ⟨status, interface⟩)

/--
A start of another interface subscribes again in the place of a dead consumer,
and an interface that is watched is not read.
-/
def Neglects (moment : Moment) (interface : InterfaceId) : Prop :=
  ∃ other ∈ moment.transition.action.started?, other ≠ interface ∧
    moment.transition.before.isSubscribed = false ∧
    moment.transition.after.isSubscribed = true ∧
    interface ∈ moment.transition.before.watched

instance (moment : Moment) : Decidable moment.IsHeard :=
  inferInstanceAs (Decidable (_ = _))

instance (moment : Moment) (interface : InterfaceId) :
    Decidable (moment.Neglects interface) :=
  inferInstanceAs (Decidable (∃ other ∈ moment.transition.action.started?, _))

end Moment

/--
Of the moments at which an interface is inserted or published, or a property
holds, the last is one at which the property holds.
-/
def Since (property : Moment → Prop) (history : List Moment)
    (interface : InterfaceId) : Prop :=
  ∃ earlier moment later, history = earlier ++ moment :: later ∧
    property moment ∧ ∀ other ∈ later, other.IsSilentOn interface

section Since

variable {property : Moment → Prop} {history : List Moment}
  {moment : Moment} {interface : InterfaceId}

theorem since_concat (holds : property moment) :
    Since property (history ++ [moment]) interface :=
  ⟨history, moment, [], rfl, holds,
    fun _ member => absurd member List.not_mem_nil⟩

theorem not_since_of_forall (never : ∀ moment ∈ history, ¬ property moment) :
    ¬ Since property history interface := by
  rintro ⟨earlier, moment, later, rfl, holds, -⟩
  exact never moment (by simp) holds

theorem Since.concat (since : Since property history interface)
    (silent : moment.IsSilentOn interface) :
    Since property (history ++ [moment]) interface := by
  obtain ⟨earlier, found, later, rfl, holds, silence⟩ := since
  refine ⟨earlier, found, later ++ [moment], by simp, holds, ?_⟩
  intro other member
  rcases List.mem_append.1 member with old | new
  · exact silence other old
  · cases List.mem_singleton.1 new
    exact silent

/-- Nothing was so since an interface was published last. -/
theorem not_since_of_put (earlier later : List Moment)
    (put : ¬ moment.IsSilentOn interface)
    (never : ∀ other ∈ moment :: later, ¬ property other) :
    ¬ Since property (earlier ++ moment :: later) interface := by
  rintro ⟨before, found, after, cut, holds, silence⟩
  rcases List.append_eq_append_iff.1 cut with
    ⟨between, rfl, rest⟩ | ⟨between, rfl, rest⟩
  · have member : found ∈ moment :: later := by simp [rest]
    exact never found member holds
  · cases between with
    | nil =>
        cases rest
        exact never _ List.mem_cons_self holds
    | cons first between =>
        cases rest
        exact put (silence moment (by simp))

end Since

/-! ## Concrete runs -/

/-- The moments of occurrences in a row, up to one that cannot be. -/
def experience : Statuses → Observer → List Occurrence → List Moment
  | _, _, [] => []
  | statuses, observer, occurrence :: rest =>
      let present := occurrence.statuses statuses
      if occurrence.action.IsTruthful present observer then
        match observer.step occurrence.action with
        | some next =>
            ⟨present, ⟨observer, occurrence.action, next⟩⟩ ::
              experience present next rest
        | none => []
      else []

/-- What occurrences in a row lead to, up to one that cannot be. -/
def experienced : Statuses → Observer → List Occurrence → Statuses × Observer
  | statuses, observer, [] => (statuses, observer)
  | statuses, observer, occurrence :: rest =>
      let present := occurrence.statuses statuses
      if occurrence.action.IsTruthful present observer then
        match observer.step occurrence.action with
        | some next => experienced present next rest
        | none => (statuses, observer)
      else (statuses, observer)

/-- All interfaces are down. -/
def allDown : Statuses := fun _ => .down

/-- Occurrences in a row continue a truthful run. -/
theorem TruthfulRun.experience {history : List Moment} {statuses : Statuses}
    {observer : Observer} (run : TruthfulRun history statuses observer)
    (occurrences : List Occurrence) :
    TruthfulRun (history ++ Watch.experience statuses observer occurrences)
      (experienced statuses observer occurrences).1
      (experienced statuses observer occurrences).2 := by
  induction occurrences generalizing history statuses observer with
  | nil =>
      rw [Watch.experience, List.append_nil]
      exact run
  | cons occurrence rest ih =>
      rw [Watch.experience, experienced]
      split
      · next truthful =>
          split
          · next next happens =>
              have longer := ih (run.step occurrence truthful happens)
              rw [List.append_assoc] at longer
              exact longer
          · rw [List.append_nil]
            exact run
      · rw [List.append_nil]
        exact run

end Watch

end Tunnel
