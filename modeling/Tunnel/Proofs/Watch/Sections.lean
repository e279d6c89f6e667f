import Tunnel.Proofs.Watch.Run

/-!
# What a section needs and does

Each section of a consumer is known here by the phase that it leads from and
by the consumer that it leaves; no proof about consumers looks further.
-/

namespace Tunnel

namespace Observer

open Watch

section SetConsumer

variable {observer next : Observer} {index : Nat}

theorem getElem?_setConsumer (observer : Observer) {before : Consumer}
    (found : observer.consumers[index]? = some before) (after : Consumer) :
    (observer.setConsumer index after).consumers[index]? = some after :=
  List.getElem?_set_self (List.getElem?_eq_some_iff.1 found).1

theorem getElem?_setConsumer_of_ne (observer : Observer) {other : Nat}
    (different : index ≠ other) (after : Consumer) :
    (observer.setConsumer index after).consumers[other]? =
      observer.consumers[other]? :=
  List.getElem?_set_ne different

theorem stepConsumer_eq_some {advance? : Consumer → Option Consumer}
    (happens : observer.stepConsumer index advance? = some next) :
    ∃ before after, observer.consumers[index]? = some before ∧
      advance? before = some after ∧
      next = observer.setConsumer index after := by
  obtain ⟨before, found, inner⟩ := Option.bind_eq_some_iff.1 happens
  obtain ⟨after, changed, same⟩ := Option.bind_eq_some_iff.1 inner
  exact ⟨before, after, found, changed, (Option.some.inj same).symm⟩

end SetConsumer

end Observer

namespace Watch.Consumer

variable {before after : Consumer}

theorem receive?_eq_some (taken : before.receive? = some after) :
    ∃ change inbox, before.phase = .receiving ∧
      before.subscription.inbox = change :: inbox ∧
      after = { before with
        subscription := { before.subscription with inbox }
        phase := .checking change } := by
  unfold receive? at taken
  split at taken
  · next receiving arrived =>
      exact ⟨_, _, receiving, arrived, (Option.some.inj taken).symm⟩
  · cases taken

theorem noticeEnd?_eq_some (noticed : before.noticeEnd? = some after) :
    before.phase = .receiving ∧ before.subscription.inbox = [] ∧
      before.subscription.ended = true ∧
      after = { before with phase := .leaving } := by
  unfold noticeEnd? at noticed
  split at noticed
  · next receiving drained =>
      obtain ⟨ended, same⟩ := Option.ite_none_right_eq_some.1 noticed
      exact ⟨receiving, drained, ended, (Option.some.inj same).symm⟩
  · cases noticed

theorem check?_eq_some {isWatched : InterfaceId → Bool}
    (checked : before.check? isWatched = some after) :
    ∃ change, before.phase = .checking change ∧
      after = { before with
        phase :=
          if isWatched change.interface then
            match change.status with
            | some status => .publishing change.interface status []
            | none => .reading change.interface []
          else .receiving } := by
  unfold check? at checked
  split at checked
  · next checking => exact ⟨_, checking, (Option.some.inj checked).symm⟩
  · cases checked

theorem read?_eq_some {status : OperStatus}
    (read : before.read? status = some after) :
    ∃ interface next, before.phase = .reading interface next ∧
      after = { before with
        phase := .publishing interface status next } := by
  unfold read? at read
  split at read
  · next reading => exact ⟨_, _, reading, (Option.some.inj read).symm⟩
  · cases read

theorem leave?_eq_some {anyWatched : Bool}
    (left : before.leave? anyWatched = some after) :
    before.phase = .leaving ∧
      after = { before with
        phase := if anyWatched then .pausing else .finished } := by
  unfold leave? at left
  split at left
  · next leaving => exact ⟨leaving, (Option.some.inj left).symm⟩
  · cases left

theorem resubscribe?_eq_some {answer : Except Error Nat} :
    before.resubscribe? answer = some after →
      before.phase = .pausing ∧
        after = match answer with
          | .ok source =>
              { before with subscription := { source }, phase := .gathering }
          | .error _ => { before with phase := .finished } := by
  intro resumed
  unfold resubscribe? at resumed
  split at resumed
  · next pausing =>
      cases answer with
      | ok source => exact ⟨pausing, (Option.some.inj resumed).symm⟩
      | error error => exact ⟨pausing, (Option.some.inj resumed).symm⟩
  · cases resumed

theorem gather?_eq_some {order : List InterfaceId}
    (gathered : before.gather? order = some after) :
    before.phase = .gathering ∧
      after = { before with phase := Phase.reads order } := by
  unfold gather? at gathered
  split at gathered
  · next gathering => exact ⟨gathering, (Option.some.inj gathered).symm⟩
  · cases gathered

end Watch.Consumer

end Tunnel
