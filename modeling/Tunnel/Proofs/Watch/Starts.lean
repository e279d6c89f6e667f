import Mathlib.Data.List.Nodup
import Tunnel.Proofs.Watch.Publication

/-!
# Pending starts

A start stays pending from the section that inserts its interface to the one
that publishes its status.  Each has a number that no other has, so that one
start ends at a time and the others go on.
-/

namespace Tunnel

namespace Observer

open Watch

/-- A start of an interface has not ended. -/
def IsStarting (observer : Observer) (interface : InterfaceId) : Prop :=
  ∃ number start, (number, start) ∈ observer.starts ∧
    start.interface = interface

/-- No two pending starts have one number, nor will the next one. -/
structure NumbersStarts (observer : Observer) : Prop where
  once : (observer.starts.map Prod.fst).Nodup
  fresh : ∀ number ∈ observer.starts.map Prod.fst,
    number < observer.nextStart

/-- No start is pending, and every consumer at work waits for a change. -/
def IsQuiet (observer : Observer) : Prop :=
  observer.starts = [] ∧
    ∀ consumer ∈ observer.consumers, consumer.isRunning = true →
      consumer.phase = .receiving ∧ consumer.subscription.inbox = [] ∧
        consumer.subscription.ended = false

instance (observer : Observer) : Decidable observer.IsQuiet :=
  inferInstanceAs (Decidable (_ ∧ _))

@[simp]
theorem publish_nextStart (observer : Observer) (interface : InterfaceId)
    (status : OperStatus) :
    (observer.publish interface status).nextStart = observer.nextStart := by
  rw [publish_eq]

section Starts

variable {observer : Observer} {interface : InterfaceId}

theorem NumbersStarts.enlist (numbers : observer.NumbersStarts) :
    (observer.enlist interface).NumbersStarts := by
  have starts : (observer.enlist interface).starts.map Prod.fst =
      observer.starts.map Prod.fst ++ [observer.nextStart] := by
    simp [Observer.enlist]
  constructor
  · rw [starts, List.nodup_append]
    refine ⟨numbers.once, List.nodup_singleton _, ?_⟩
    intro number old other new same
    cases List.mem_singleton.1 new
    exact Nat.lt_irrefl _ (same ▸ numbers.fresh number old)
  · intro number member
    rw [starts, List.mem_append, List.mem_singleton] at member
    rcases member with old | rfl
    · exact Nat.lt_succ_of_lt (numbers.fresh number old)
    · exact Nat.lt_succ_self _

/-- What is learned of pending starts leaves them their numbers. -/
theorem NumbersStarts.map {change : Nat × Start → Nat × Start}
    (numbers : observer.NumbersStarts)
    (same : ∀ pending, (change pending).1 = pending.1) :
    { observer with
        starts := observer.starts.map change }.NumbersStarts := by
  have kept : (observer.starts.map change).map Prod.fst =
      observer.starts.map Prod.fst := by
    rw [List.map_map]
    exact List.map_congr_left fun pending _ => same pending
  exact ⟨kept ▸ numbers.once, kept ▸ numbers.fresh⟩

theorem NumbersStarts.withdrawAll (numbers : observer.NumbersStarts) :
    observer.withdrawAll.NumbersStarts := by
  unfold Observer.withdrawAll release
  split
  · exact ⟨numbers.once, numbers.fresh⟩
  · exact ⟨numbers.once, numbers.fresh⟩

/-- A number has one start only. -/
theorem NumbersStarts.start_unique (numbers : observer.NumbersStarts)
    {number : Nat} {start other : Start}
    (found : observer.start? number = some start)
    (member : (number, other) ∈ observer.starts) : other = start := by
  have same := List.inj_on_of_nodup_map numbers.once member
    (observer.mem_starts_of_start? found) rfl
  exact (Prod.mk.inj same).2

theorem isStarting_enlist : (observer.enlist interface).IsStarting interface :=
  ⟨_, { interface }, List.mem_append_right _ (List.mem_singleton.2 rfl), rfl⟩

theorem IsStarting.enlist {other : InterfaceId}
    (starting : observer.IsStarting interface) :
    (observer.enlist other).IsStarting interface := by
  obtain ⟨number, start, member, same⟩ := starting
  exact ⟨number, start, List.mem_append_left _ member, same⟩

end Starts

end Observer

namespace Watch

/-! ## Effects -/

section Starts

variable {before after : Observer} {action : Action}

theorem Effect.numbersStarts (effect : Effect before action after)
    (numbers : before.NumbersStarts) : after.NumbersStarts := by
  have shorter : ∀ starts : List (Nat × Start),
      starts.Sublist before.starts →
        (starts.map Prod.fst).Nodup ∧
          ∀ number ∈ starts.map Prod.fst, number < before.nextStart :=
    fun starts shorter =>
      ⟨numbers.once.sublist (shorter.map _),
        fun number member =>
          numbers.fresh number ((shorter.map _).subset member)⟩
  cases effect with
  | joined _ _ => exact numbers.enlist
  | spawned _ =>
      exact Observer.NumbersStarts.enlist ⟨numbers.once, numbers.fresh⟩
  | startReads found =>
      refine numbers.map fun pending => ?_
      dsimp only
      split <;> rfl
  | startPublishes _ =>
      obtain ⟨once, fresh⟩ := shorter _ List.filter_sublist
      constructor
      · rw [Observer.publish_starts]
        exact once
      · rw [Observer.publish_starts, Observer.publish_nextStart]
        exact fresh
  | publish _ _ =>
      constructor
      · rw [Observer.publish_starts]
        exact numbers.once
      · rw [Observer.publish_starts, Observer.publish_nextStart]
        exact numbers.fresh
  | emptied _ => exact numbers.withdrawAll
  | withdrawAll => exact numbers.withdrawAll
  | _ => exact ⟨numbers.once, numbers.fresh⟩

/-- A start that reads its status goes on under its number. -/
theorem isStarting_startReads {number : Nat} {status : OperStatus}
    {interface : InterfaceId}
    (effect : Effect before (.startReads number status) after)
    (numbers : before.NumbersStarts)
    (starting : before.IsStarting interface) :
    after.IsStarting interface := by
  obtain ⟨own, start, member, rfl⟩ := starting
  cases effect with
  | progress own _ _ _ => cases own
  | startReads found =>
      by_cases same : own = number
      · cases same
        cases numbers.start_unique found member
        exact ⟨_, _, List.mem_map.2 ⟨_, member, if_pos rfl⟩, rfl⟩
      · exact ⟨own, start, List.mem_map.2 ⟨_, member, if_neg same⟩, rfl⟩

/-- A start that publishes its status ends, and no other one does. -/
theorem isStarting_filter {number : Nat} {start : Start}
    {interface : InterfaceId}
    (found : before.start? number = some start)
    (numbers : before.NumbersStarts)
    (other : start.interface ≠ interface)
    (starting : before.IsStarting interface) :
    { before with
        starts := before.starts.filter (·.1 ≠ number) }.IsStarting
      interface := by
  obtain ⟨own, pending, member, rfl⟩ := starting
  refine ⟨own, pending, List.mem_filter.2 ⟨member, ?_⟩, rfl⟩
  refine decide_eq_true ?_
  intro same
  cases same
  exact other (congrArg _ (numbers.start_unique found member).symm)

end Starts

theorem Run.numbersStarts {history : List Transition} {observer : Observer}
    (run : Run history observer) : observer.NumbersStarts :=
  run.invariant ⟨List.nodup_nil, nofun⟩
    fun numbers effect => effect.numbersStarts numbers

end Watch

end Tunnel
