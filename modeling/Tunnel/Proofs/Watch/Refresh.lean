import Tunnel.Proofs.Watch.Starts
import Tunnel.Proofs.Watch.Truthful

/-!
# Readings that are owed

A consumer that has subscribed again owes a reading of everything that is
watched, and takes no change before it has paid (`Owes`).  A start owes a
reading of its own interface.  What has become of such a reading is followed
step by step: it is owed, or it was made and is held, or it was published.
-/

namespace Tunnel

namespace Watch

/-! ## Readings and their publications -/

/-- What a consumer is about to publish. -/
def Phase.held? : Phase → Option (InterfaceId × OperStatus)
  | .publishing interface status _ => some (interface, status)
  | _ => none

/-- Who publishes a status of which interface by an action. -/
def Action.publishing? (observer : Observer) :
    Action → Option (Activity × InterfaceId × OperStatus)
  | .startPublishes number =>
      (observer.start? number).bind fun start =>
        start.status.map (.start number, start.interface, ·)
  | .publish index =>
      (observer.consumers[index]?.bind (·.phase.held?)).map (.consumer index, ·)
  | _ => none

/-- An activity has read a status of an interface. -/
def HasRead (history : List Transition) (activity : Activity)
    (interface : InterfaceId) (status : OperStatus) : Prop :=
  ∃ transition ∈ history,
    transition.action.reading? transition.before =
      some (activity, interface, status)

/--
An activity has read a status of an interface and has then published it, so
that it was put on the sink if a listener was attached.
-/
def Refreshes (history : List Transition) (activity : Activity)
    (interface : InterfaceId) : Prop :=
  ∃ earlier transition later status,
    history = earlier ++ transition :: later ∧
      HasRead earlier activity interface status ∧
      transition.action.publishing? transition.before =
        some (activity, interface, status) ∧
      (transition.after.sink = .attached →
        transition.Puts ⟨status.connection, interface⟩)

section Histories

variable {history : List Transition} {transition : Transition}
  {activity : Activity} {interface : InterfaceId} {status : OperStatus}

theorem HasRead.concat (read : HasRead history activity interface status) :
    HasRead (history ++ [transition]) activity interface status := by
  obtain ⟨found, member, reads⟩ := read
  exact ⟨found, List.mem_append_left _ member, reads⟩

theorem hasRead_concat
    (reads : transition.action.reading? transition.before =
      some (activity, interface, status)) :
    HasRead (history ++ [transition]) activity interface status :=
  ⟨transition, List.mem_append_right _ (List.mem_singleton.2 rfl), reads⟩

theorem Refreshes.concat (refreshes : Refreshes history activity interface) :
    Refreshes (history ++ [transition]) activity interface := by
  obtain ⟨earlier, found, later, status, rfl, rest⟩ := refreshes
  exact ⟨earlier, found, later ++ [transition], status, by simp, rest⟩

end Histories

/-! ## What steps keep -/

section Steps

variable {before after : Observer} {action : Action}
  {interface : InterfaceId} {index : Nat}

theorem not_stops {transition : Transition}
    (calm : transition.action.isStop = false) :
    ¬ transition.Stops interface := by
  rintro (stop | stop)
  · rw [stop] at calm
    cases calm
  · rw [stop] at calm
    cases calm

/-- Only a stop takes an interface out. -/
theorem mem_watched_of_step (happens : before.step action = some after)
    (kept : ¬ (Transition.mk before action after).Stops interface)
    (member : interface ∈ before.watched) : interface ∈ after.watched := by
  have others : ∀ {other}, action = .withdraw other →
      interface ∈ before.watched.erase other := by
    rintro other rfl
    refine (List.mem_erase_of_ne ?_).2 member
    rintro rfl
    exact kept (Or.inl rfl)
  cases effect_of_step happens with
  | joined _ _ => exact before.mem_insert.2 (Or.inl member)
  | spawned _ => exact (before.spawn _).mem_insert.2 (Or.inl member)
  | withdrawn _ _ => exact others rfl
  | emptied _ =>
      rw [← Option.some.inj happens, before.withdraw_watched]
      exact others rfl
  | withdrawAll => exact absurd (Or.inr rfl) kept
  | startPublishes _ =>
      rw [Observer.publish_watched]
      exact member
  | publish _ _ =>
      rw [Observer.publish_watched]
      exact member
  | _ => exact member

/-- Only sections of a consumer move it from where it stands. -/
theorem Effect.phase_before (effect : Effect before action after)
    (bound : index < before.consumers.length)
    (foreign : action.consumer? ≠ some index) (calm : action ≠ .publish index)
    {consumer : Consumer} (found : after.consumers[index]? = some consumer) :
    ∃ old, before.consumers[index]? = some old ∧
      old.phase = consumer.phase := by
  have stands : after.has (·.phase = consumer.phase) index = true :=
    (Observer.has_of_getElem? found).trans (decide_eq_true rfl)
  suffices same : before.has (·.phase = consumer.phase) index = true by
    obtain ⟨old, held, equal⟩ := (Option.any_eq_true _ _).1 same
    exact ⟨old, held, of_decide_eq_true equal⟩
  cases effect with
  | joined _ _ => rwa [Observer.has_enlist] at stands
  | spawned _ =>
      rwa [Observer.has_enlist, Observer.has_spawn,
        if_neg (Nat.ne_of_lt bound)] at stands
  | startPublishes _ => rwa [Observer.has_publish] at stands
  | emptied _ | withdrawAll =>
      rw [Observer.has_withdrawAll] at stands
      split at stands <;> exact stands
  | notify =>
      rwa [Observer.has_notify fun other => by
        rw [Consumer.deliver_phase]] at stands
  | progress own held _ _ =>
      rw [Observer.has_setConsumer held, if_neg ?_] at stands
      · exact stands
      · rintro rfl
        exact foreign own
  | publish held _ =>
      rw [Observer.has_publish, Observer.has_setConsumer held, if_neg ?_]
        at stands
      · exact stands
      · rintro rfl
        exact calm rfl
  | _ => exact stands

end Steps

/-! ## What a consumer owes -/

/-- A consumer is still to read an interface after a new subscription. -/
inductive Owes (interface : InterfaceId) : Phase → Prop
  | gathering : Owes interface .gathering
  | reading {other next} (member : interface ∈ other :: next) :
      Owes interface (.reading other next)
  | publishing {other status next} (member : interface ∈ next) :
      Owes interface (.publishing other status next)

/-- A consumer that takes changes, or waits to subscribe again. -/
def Phase.isFree : Phase → Bool
  | .receiving | .checking _ | .leaving | .pausing => true
  | _ => false

/-- What has become of the reading that a consumer owed. -/
inductive Account (history : List Transition) (index : Nat)
    (interface : InterfaceId) (phase : Phase) : Prop
  | finished (finished : phase = .finished)
  | owes (owes : Owes interface phase)
  | holds {status} (held : phase.held? = some (interface, status))
      (read : HasRead history (.consumer index) interface status)
  | paid (refreshes : Refreshes history (.consumer index) interface)

section Accounts

variable {history : List Transition} {before after : Observer}
  {action : Action} {interface : InterfaceId} {index : Nat}

theorem Account.concat {phase : Phase} {transition : Transition}
    (account : Account history index interface phase) :
    Account (history ++ [transition]) index interface phase := by
  cases account with
  | finished finished => exact .finished finished
  | owes owes => exact .owes owes
  | holds held read => exact .holds held read.concat
  | paid refreshes => exact .paid refreshes.concat

theorem owes_reads {next : List InterfaceId} (member : interface ∈ next) :
    Owes interface (Phase.reads next) := by
  cases next with
  | nil => cases member
  | cons other next => exact .reading member

/-- Where nothing is owed any more, it has been paid. -/
theorem Account.refreshes {phase : Phase}
    (account : Account history index interface phase)
    (free : phase.isFree = true) :
    Refreshes history (.consumer index) interface := by
  cases account with
  | finished finished =>
      rw [finished] at free
      cases free
  | owes owes => cases owes <;> cases free
  | holds held _ =>
      cases phase with
      | publishing => cases free
      | _ => cases held
  | paid refreshes => exact refreshes

/-- What a free consumer does next, it owes nothing. -/
theorem Account.move {phase next : Phase} {transition : Transition}
    (account : Account history index interface phase)
    (free : phase.isFree = true) :
    Account (history ++ [transition]) index interface next :=
  .paid (account.refreshes free).concat

theorem Account.read {consumer next : Consumer} {status : OperStatus}
    (account : Account history index interface consumer.phase)
    (found : before.consumers[index]? = some consumer)
    (read : consumer.read? status = some next) :
    Account (history ++ [⟨before, .read index status, after⟩]) index
      interface next.phase := by
  obtain ⟨other, others, reading, rfl⟩ := Consumer.read?_eq_some read
  rw [reading] at account
  cases account with
  | finished finished => cases finished
  | owes owes =>
      obtain _ | member := owes
      rcases List.mem_cons.1 member with rfl | follows
      · refine .holds rfl (hasRead_concat ?_)
        exact reading?_read found (congrArg Phase.awaited? reading)
      · exact .owes (.publishing follows)
  | holds held _ => cases held
  | paid refreshes => exact .paid refreshes.concat

/-- What is held is published, and the account is paid. -/
theorem Account.publish {consumer : Consumer} {other : InterfaceId}
    {status : OperStatus} {next : List InterfaceId}
    (account : Account history index interface consumer.phase)
    (watched : interface ∈ before.watched)
    (found : before.consumers[index]? = some consumer)
    (stands : consumer.phase = .publishing other status next)
    (posted : after = (before.setConsumer index
      { consumer with phase := Phase.reads next }).publish other status) :
    Account (history ++ [⟨before, .publish index, after⟩]) index interface
      (Phase.reads next) := by
  have held : consumer.phase.held? = some (other, status) :=
    congrArg Phase.held? stands
  rw [stands] at account
  cases account with
  | finished finished => cases finished
  | owes owes =>
      obtain _ | _ | member := owes
      exact .owes (owes_reads member)
  | holds own read =>
      cases own
      refine .paid ⟨history, _, [], status, rfl, read, ?_, fun heard => ?_⟩
      · exact Option.map_eq_some_iff.2 ⟨(interface, status),
          Option.bind_eq_some_iff.2 ⟨consumer, found, held⟩, rfl⟩
      · cases posted
        exact Observer.publish_heard heard watched
  | paid refreshes => exact .paid refreshes.concat

/-- A section of the consumer moves its account on. -/
theorem account_of_section {advance? : Consumer → Option Consumer}
    (happens : before.stepConsumer index advance? = some after)
    (moves : ∀ old new, before.consumers[index]? = some old →
      advance? old = some new →
        Account (history ++ [⟨before, action, after⟩]) index interface
          new.phase)
    {consumer : Consumer} (found : after.consumers[index]? = some consumer) :
    Account (history ++ [⟨before, action, after⟩]) index interface
      consumer.phase := by
  obtain ⟨old, new, held, changed, same⟩ :=
    Observer.stepConsumer_eq_some happens
  have moved := moves old new held changed
  rw [same, before.getElem?_setConsumer held] at found
  cases found
  exact moved

/-- The section of a consumer that owed a reading leaves an account of it. -/
theorem account_of_step (happens : before.step action = some after)
    (own : action.consumer? = some index)
    (watched : interface ∈ before.watched)
    (accounts : ∀ consumer, before.consumers[index]? = some consumer →
      Account history index interface consumer.phase)
    {consumer : Consumer} (found : after.consumers[index]? = some consumer) :
    Account (history ++ [⟨before, action, after⟩]) index interface
      consumer.phase := by
  cases action with
  | abort other | die other =>
      cases own
      refine account_of_section happens (fun old new _ ended => ?_) found
      cases (Option.ite_none_right_eq_some.1 ended).2
      exact .finished rfl
  | deliver other change =>
      cases own
      refine account_of_section happens (fun old new held arrived => ?_) found
      cases (Option.ite_none_right_eq_some.1 arrived).2
      rw [Consumer.deliver_phase]
      exact (accounts old held).concat
  | endSource other =>
      cases own
      refine account_of_section happens (fun old new held closed => ?_) found
      cases (Option.ite_none_right_eq_some.1 closed).2
      exact (accounts old held).concat
  | receive other =>
      cases own
      refine account_of_section happens (fun old new held taken => ?_) found
      obtain ⟨_, _, receiving, -⟩ := Consumer.receive?_eq_some taken
      exact (accounts old held).move (congrArg Phase.isFree receiving)
  | noticeEnd other =>
      cases own
      refine account_of_section happens (fun old new held noticed => ?_) found
      obtain ⟨receiving, -⟩ := Consumer.noticeEnd?_eq_some noticed
      exact (accounts old held).move (congrArg Phase.isFree receiving)
  | check other =>
      cases own
      refine account_of_section happens (fun old new held checked => ?_) found
      obtain ⟨_, checking, -⟩ := Consumer.check?_eq_some checked
      exact (accounts old held).move (congrArg Phase.isFree checking)
  | read other status =>
      cases own
      exact account_of_section happens
        (fun old new held read => (accounts old held).read held read) found
  | leave other =>
      cases own
      refine account_of_section happens (fun old new held left => ?_) found
      obtain ⟨leaving, -⟩ := Consumer.leave?_eq_some left
      exact (accounts old held).move (congrArg Phase.isFree leaving)
  | resubscribe other answer =>
      cases own
      refine account_of_section happens (fun old new held resumed => ?_) found
      obtain ⟨pausing, -⟩ := Consumer.resubscribe?_eq_some resumed
      exact (accounts old held).move (congrArg Phase.isFree pausing)
  | gather other order =>
      cases own
      obtain ⟨all, happens⟩ := Option.ite_none_right_eq_some.1 happens
      refine account_of_section happens (fun old new _ gathered => ?_) found
      obtain ⟨-, rfl⟩ := Consumer.gather?_eq_some gathered
      exact .owes (owes_reads (all.mem_iff.2 watched))
  | _ => cases own

/-- Whatever happens, the account of a consumer is kept. -/
theorem accounts_of_step (happens : before.step action = some after)
    (bound : index < before.consumers.length)
    (watched : interface ∈ before.watched)
    (accounts : ∀ consumer, before.consumers[index]? = some consumer →
      Account history index interface consumer.phase)
    {consumer : Consumer} (found : after.consumers[index]? = some consumer) :
    Account (history ++ [⟨before, action, after⟩]) index interface
      consumer.phase := by
  -- Publishing reaches the sink as well, so it is no section of a consumer.
  by_cases own : action.consumer? = some index
  · exact account_of_step happens own watched accounts found
  by_cases publishes : action = .publish index
  · cases publishes
    cases effect_of_step happens with
    | progress own' _ _ _ => cases own'
    | @publish _ old _ _ next held stands =>
        have account := (accounts old held).publish watched held stands rfl
        rw [Observer.publish_consumers, before.getElem?_setConsumer held]
          at found
        cases found
        exact account
  · obtain ⟨old, held, same⟩ :=
      (effect_of_step happens).phase_before bound own publishes found
    rw [← same]
    exact (accounts old held).concat

end Accounts

/-! ## What a start owes -/

/-- The start whose section an action is. -/
def Action.start? : Action → Option Nat
  | .startReads number _ | .startPublishes number => some number
  | _ => none

/-- What has become of a start. -/
inductive Progress (history : List Transition) (number : Nat)
    (interface : InterfaceId) (observer : Observer) : Prop
  | unread (pending : (number, { interface }) ∈ observer.starts)
  | read {status}
      (pending :
        (number, { interface, status := some status }) ∈ observer.starts)
      (read : HasRead history (.start number) interface status)
  | ended (refreshes : Refreshes history (.start number) interface)

section Starts

variable {history : List Transition} {before after : Observer}
  {action : Action} {interface : InterfaceId} {number : Nat}

/-- A start goes on while others have their sections. -/
theorem Effect.mem_starts_of_kept (effect : Effect before action after)
    (foreign : action.start? ≠ some number) {start : Start}
    (pending : (number, start) ∈ before.starts) :
    (number, start) ∈ after.starts := by
  cases effect with
  | joined _ _ => exact List.mem_append_left _ pending
  | spawned _ => exact List.mem_append_left _ pending
  | startReads _ =>
      refine List.mem_map.2 ⟨_, pending, if_neg ?_⟩
      rintro rfl
      exact foreign rfl
  | startPublishes _ =>
      rw [Observer.publish_starts]
      refine List.mem_filter.2 ⟨pending, decide_eq_true ?_⟩
      rintro rfl
      exact foreign rfl
  | publish _ _ =>
      rw [Observer.publish_starts]
      exact pending
  | emptied _ | withdrawAll =>
      rw [Observer.withdrawAll_starts]
      exact pending
  | _ => exact pending

theorem Progress.startReads {status : OperStatus}
    (progress : Progress history number interface before)
    (numbers : before.NumbersStarts)
    (happens : before.step (.startReads number status) = some after) :
    Progress (history ++ [⟨before, .startReads number status, after⟩]) number
      interface after := by
  cases effect_of_step happens with
  | progress own _ _ _ => cases own
  | startReads found =>
      cases progress with
      | unread pending =>
          cases numbers.start_unique found pending
          refine .read (List.mem_map.2 ⟨_, pending, if_pos rfl⟩)
            (hasRead_concat ?_)
          exact Option.map_eq_some_iff.2 ⟨_, found, rfl⟩
      | read pending _ =>
          -- A start reads once: numbers are unique, and this one has read.
          cases numbers.start_unique found pending
      | ended refreshes => exact .ended refreshes.concat

theorem Progress.startPublishes
    (progress : Progress history number interface before)
    (numbers : before.NumbersStarts) (watched : interface ∈ before.watched)
    (happens : before.step (.startPublishes number) = some after) :
    Progress (history ++ [⟨before, .startPublishes number, after⟩]) number
      interface after := by
  cases effect_of_step happens with
  | progress own _ _ _ => cases own
  | startPublishes found =>
      cases progress with
      | unread pending => cases numbers.start_unique found pending
      | read pending read =>
          cases numbers.start_unique found pending
          refine .ended ⟨history, _, [], _, rfl, read, ?_, fun heard => ?_⟩
          · exact Option.bind_eq_some_iff.2 ⟨_, found, rfl⟩
          · exact Observer.publish_heard heard watched
      | ended refreshes => exact .ended refreshes.concat

theorem progress_of_step (happens : before.step action = some after)
    (numbers : before.NumbersStarts) (watched : interface ∈ before.watched)
    (progress : Progress history number interface before) :
    Progress (history ++ [⟨before, action, after⟩]) number interface
      after := by
  by_cases own : action.start? = some number
  · cases action with
    | startReads other status =>
        cases own
        exact progress.startReads numbers happens
    | startPublishes other =>
        cases own
        exact progress.startPublishes numbers watched happens
    | _ => cases own
  · have effect := effect_of_step happens
    cases progress with
    | unread pending => exact .unread (effect.mem_starts_of_kept own pending)
    | read pending read =>
        exact .read (effect.mem_starts_of_kept own pending) read.concat
    | ended refreshes => exact .ended refreshes.concat

/-- A start that does not fail inserts its interface and is pending. -/
theorem Effect.pending_of_enlists (effect : Effect before action after)
    (enlists : (Transition.mk before action after).Enlists number interface) :
    (number, { interface }) ∈ after.starts ∧ interface ∈ after.watched := by
  obtain ⟨answer, started, enrolled, numbered⟩ := enlists
  dsimp only at started enrolled numbered
  cases started
  cases numbered
  cases effect with
  | settled subscribed member =>
      rw [Observer.enrol_settled subscribed member] at enrolled
      cases enrolled
  | refused unsubscribed =>
      rw [Observer.enrol_refused unsubscribed] at enrolled
      cases enrolled
  | joined _ _ =>
      exact ⟨List.mem_append_right _ (List.mem_singleton.2 rfl),
        before.mem_insert.2 (Or.inr rfl)⟩
  | spawned _ =>
      exact ⟨List.mem_append_right _ (List.mem_singleton.2 rfl),
        (before.spawn _).mem_insert.2 (Or.inr rfl)⟩
  | progress own _ _ _ => cases own

end Starts

end Watch

end Tunnel
