import Tunnel.Proofs.Watch.Run

/-!
# Only watched interfaces are published

A status is read without holding on to the watched set, so it may be ready
when its interface is no longer watched.  Every publication looks at the set
itself: an event is put on the sink only while its interface is watched
(`Effect.watched_of_put`).  Hence between a stop and a later event for the
interface it stopped there is a start that has inserted the interface again,
whichever activity read the status, and when.

A start that fails leaves no trace in the observer.  Publications of starts
therefore belong to starts that have inserted their interface: each goes back,
through the number of the start, to such a transition (`Run.enlisted`).
-/

namespace Tunnel

/-! ## Putting events on the sink -/

namespace Observer

open Watch

section Publish

variable (observer : Observer)

theorem emit_outbox (event : StatusEvent) :
    (observer.emit event).outbox = observer.outbox ∨
      (observer.emit event).outbox = observer.outbox ++ [event] := by
  unfold emit
  split
  · exact Or.inr rfl
  · exact Or.inl rfl
  · exact Or.inl rfl

/-- At most one event is put on the sink, and for a watched interface. -/
theorem publish_outbox (interface : InterfaceId) (status : OperStatus) :
    (observer.publish interface status).outbox = observer.outbox ∨
      interface ∈ observer.watched ∧
        (observer.publish interface status).outbox =
          observer.outbox ++ [{ status := status.connection, interface }] := by
  unfold publish
  split
  · next watching =>
      rcases observer.emit_outbox
        { status := status.connection, interface } with same | longer
      · exact Or.inl same
      · exact Or.inr ⟨observer.isWatching_iff.1 watching, longer⟩
  · exact Or.inl rfl

theorem withdrawAll_watched : observer.withdrawAll.watched = [] :=
  release_watched _

theorem withdrawAll_outbox : observer.withdrawAll.outbox = observer.outbox :=
  release_outbox _

theorem withdrawAll_starts : observer.withdrawAll.starts = observer.starts :=
  release_starts _

theorem mem_starts_of_start? {number : Nat} {start : Start}
    (found : observer.start? number = some start) :
    (number, start) ∈ observer.starts := by
  obtain ⟨⟨other, same⟩, first, rfl⟩ := Option.map_eq_some_iff.1 found
  have equal : other = number := by simpa using List.find?_some first
  rw [← equal]
  exact List.mem_of_find?_eq_some first

end Publish

end Observer

namespace Watch

/-! ## What transitions do -/

namespace Transition

/-- An event is put on the sink. -/
def Puts (transition : Transition) (event : StatusEvent) : Prop :=
  transition.after.outbox = transition.before.outbox ++ [event]

/-- A stop takes an interface out. -/
def Stops (transition : Transition) (interface : InterfaceId) : Prop :=
  transition.action = .withdraw interface ∨
    transition.action = .withdrawAll

/-- A start inserts an interface that was not watched. -/
def Inserts (transition : Transition) (interface : InterfaceId) : Prop :=
  (∃ answer, transition.action = .enrol interface answer) ∧
    interface ∉ transition.before.watched ∧
    interface ∈ transition.after.watched

/-- A start fails. -/
def Fails (transition : Transition) : Prop :=
  ∃ interface answer error,
    transition.action = .enrol interface answer ∧
      (transition.before.enrol interface answer).2 = .refused error

/-- A start does not fail and goes on under a number. -/
def Enlists (transition : Transition) (number : Nat)
    (interface : InterfaceId) : Prop :=
  ∃ answer, transition.action = .enrol interface answer ∧
    (transition.before.enrol interface answer).2 = .enrolled ∧
    transition.before.nextStart = number

end Transition

/-! ## Effects -/

section Effects

variable {before after : Observer} {action : Action}
  {interface : InterfaceId}

/-- An interface becomes watched by a start only. -/
theorem Effect.mem_watched (effect : Effect before action after)
    (member : interface ∈ after.watched) :
    interface ∈ before.watched ∨
      ∃ answer, action = .enrol interface answer := by
  cases effect with
  | joined _ _ =>
      rcases before.mem_insert.1 member with old | rfl
      · exact Or.inl old
      · exact Or.inr ⟨_, rfl⟩
  | spawned _ =>
      rcases (before.spawn _).mem_insert.1 member with old | rfl
      · exact Or.inl old
      · exact Or.inr ⟨_, rfl⟩
  | withdrawn _ _ => exact Or.inl (List.mem_of_mem_erase member)
  | emptied _ =>
      rw [Observer.withdrawAll_watched] at member
      cases member
  | withdrawAll =>
      rw [Observer.withdrawAll_watched] at member
      cases member
  | startPublishes _ =>
      rw [Observer.publish_watched] at member
      exact Or.inl member
  | publish _ _ =>
      rw [Observer.publish_watched] at member
      exact Or.inl member
  | _ => exact Or.inl member

theorem Effect.nodup_watched (effect : Effect before action after)
    (once : before.watched.Nodup) : after.watched.Nodup := by
  cases effect with
  | joined _ _ => exact before.insert_nodup once
  | spawned _ => exact (before.spawn _).insert_nodup once
  | withdrawn _ _ => exact once.erase _
  | emptied _ =>
      rw [Observer.withdrawAll_watched]
      exact List.nodup_nil
  | withdrawAll =>
      rw [Observer.withdrawAll_watched]
      exact List.nodup_nil
  | startPublishes _ =>
      rw [Observer.publish_watched]
      exact once
  | publish _ _ =>
      rw [Observer.publish_watched]
      exact once
  | _ => exact once

/-- A stop leaves its interface unwatched. -/
theorem Effect.not_mem_of_stop (effect : Effect before action after)
    (once : before.watched.Nodup)
    (stop : action = .withdraw interface ∨ action = .withdrawAll) :
    interface ∉ after.watched := by
  rcases stop with rfl | rfl
  · cases effect with
    | unwatched absent => exact absent
    | withdrawn _ _ => exact fun member => (once.mem_erase_iff.1 member).1 rfl
    | emptied _ =>
        rw [Observer.withdrawAll_watched]
        exact List.not_mem_nil
    | progress own => cases own
  · cases effect with
    | withdrawAll =>
        rw [Observer.withdrawAll_watched]
        exact List.not_mem_nil
    | progress own => cases own

/-- What a single effect does to the sink. -/
theorem Effect.outbox_cases (effect : Effect before action after) :
    after.outbox = before.outbox ∨
      (action = .listen ∧ after.outbox = []) ∨
      ∃ event, after.outbox = before.outbox ++ [event] ∧
        event.interface ∈ before.watched ∧
        after.watched = before.watched ∧
        ∀ number, action = .startPublishes number →
          ∃ start, (number, start) ∈ before.starts ∧
            start.interface = event.interface := by
  cases effect with
  | joined _ _ => exact Or.inl (before.insert_outbox _)
  | spawned _ => exact Or.inl ((before.spawn _).insert_outbox _)
  | emptied _ => exact Or.inl before.withdrawAll_outbox
  | withdrawAll => exact Or.inl before.withdrawAll_outbox
  | @startPublishes number interface status found =>
      rcases Observer.publish_outbox
        { before with starts := before.starts.filter (·.1 ≠ number) }
        interface status with same | ⟨member, longer⟩
      · exact Or.inl same
      · refine Or.inr (Or.inr ⟨_, longer, member,
          Observer.publish_watched _ _ _, ?_⟩)
        rintro other same
        cases same
        exact ⟨_, before.mem_starts_of_start? found, rfl⟩
  | @publish index consumer interface status next =>
      rcases Observer.publish_outbox (before.setConsumer index
        { consumer with phase := Phase.reads next })
        interface status with same | ⟨member, longer⟩
      · exact Or.inl same
      · refine Or.inr (Or.inr ⟨_, longer, member,
          Observer.publish_watched _ _ _, ?_⟩)
        intro number other
        cases other
  | listen => exact Or.inr (Or.inl ⟨rfl, rfl⟩)
  | _ => exact Or.inl rfl

/-- An event is put on the sink only while its interface is watched. -/
theorem Effect.watched_of_put (effect : Effect before action after)
    {event : StatusEvent} (put : after.outbox = before.outbox ++ [event]) :
    event.interface ∈ before.watched ∧ after.watched = before.watched ∧
      ∀ number, action = .startPublishes number →
        ∃ start, (number, start) ∈ before.starts ∧
          start.interface = event.interface := by
  rcases effect.outbox_cases with same | ⟨-, none⟩ | ⟨other, longer, rest⟩
  · rw [same] at put
    simp at put
  · rw [none] at put
    simp at put
  · rw [longer] at put
    cases List.append_cancel_left put
    exact rest

/-- A pending start was pending before, or has just inserted its interface. -/
theorem Effect.mem_starts (effect : Effect before action after) {number : Nat}
    {start : Start} (pending : (number, start) ∈ after.starts) :
    (∃ old, (number, old) ∈ before.starts ∧
        old.interface = start.interface) ∨
      (Transition.mk before action after).Enlists number start.interface := by
  have kept : (number, start) ∈ before.starts →
      ∃ old, (number, old) ∈ before.starts ∧
        old.interface = start.interface :=
    fun old => ⟨start, old, rfl⟩
  cases effect with
  | joined subscribed absent =>
      rcases List.mem_append.1 pending with old | new
      · exact Or.inl (kept old)
      · cases List.mem_singleton.1 new
        refine Or.inr ⟨_, rfl, ?_, rfl⟩
        rw [Observer.enrol_joined subscribed absent]
  | spawned unsubscribed =>
      rcases List.mem_append.1 pending with old | new
      · exact Or.inl (kept old)
      · cases List.mem_singleton.1 new
        refine Or.inr ⟨_, rfl, ?_, rfl⟩
        rw [Observer.enrol_spawned unsubscribed]
  | startReads found =>
      obtain ⟨⟨other, old⟩, member, changed⟩ := List.mem_map.1 pending
      dsimp only at changed
      split at changed
      · next same =>
          cases changed
          cases same
          exact Or.inl ⟨_, before.mem_starts_of_start? found, rfl⟩
      · cases changed
        exact Or.inl (kept member)
  | startPublishes _ =>
      rw [Observer.publish_starts] at pending
      exact Or.inl (kept (List.mem_filter.1 pending).1)
  | publish _ _ =>
      rw [Observer.publish_starts] at pending
      exact Or.inl (kept pending)
  | emptied _ =>
      rw [Observer.withdrawAll_starts] at pending
      exact Or.inl (kept pending)
  | withdrawAll =>
      rw [Observer.withdrawAll_starts] at pending
      exact Or.inl (kept pending)
  | _ => exact Or.inl (kept pending)

/-- A start that fails changes nothing. -/
theorem Effect.eq_of_refused {answer : Except Error Nat} {error : Error}
    (effect : Effect before (.enrol interface answer) after)
    (failed : (before.enrol interface answer).2 = .refused error) :
    after = before := by
  cases effect with
  | settled _ _ => rfl
  | refused _ => rfl
  | joined subscribed absent =>
      rw [Observer.enrol_joined subscribed absent] at failed
      cases failed
  | spawned unsubscribed =>
      rw [Observer.enrol_spawned unsubscribed] at failed
      cases failed
  | progress own => cases own

end Effects

/-! ## Runs -/

namespace Run

variable {history : List Transition} {observer : Observer}

theorem nodup_watched (run : Run history observer) :
    observer.watched.Nodup :=
  run.invariant List.nodup_nil fun once effect => effect.nodup_watched once

/-- An interface that was stopped is unwatched until a start inserts it. -/
theorem not_mem_watched {earlier between : List Transition}
    {stop : Transition} {interface : InterfaceId}
    (run : Run history observer) (cut : history = earlier ++ stop :: between)
    (stops : stop.Stops interface)
    (never : ∀ transition ∈ between, ¬ transition.Inserts interface) :
    interface ∉ observer.watched := by
  induction run generalizing between with
  | created => simp at cut
  | @step _ before action after run happens ih =>
      have effect := effect_of_step happens
      rcases List.eq_nil_or_concat between with rfl | ⟨front, last, rfl⟩
      · obtain ⟨-, same⟩ := List.append_inj' cut rfl
        cases same
        exact effect.not_mem_of_stop run.nodup_watched stops
      · rw [List.concat_eq_append, ← List.cons_append,
          ← List.append_assoc] at cut
        obtain ⟨front, same⟩ := List.append_inj' cut rfl
        cases same
        have unwatched := ih front fun transition member =>
          never transition (by simp [member])
        intro member
        rcases effect.mem_watched member with old | started
        · exact unwatched old
        · exact never ⟨before, action, after⟩ (by simp)
            ⟨started, unwatched, member⟩

/-- Every pending start goes back to one that has not failed. -/
theorem enlisted (run : Run history observer) {number : Nat}
    {start : Start} (pending : (number, start) ∈ observer.starts) :
    ∃ transition ∈ history,
      transition.Enlists number start.interface := by
  induction run generalizing start with
  | created => cases pending
  | step run happens ih =>
      rcases (effect_of_step happens).mem_starts pending with
        ⟨old, member, same⟩ | enlists
      · obtain ⟨transition, found, enlists⟩ := ih member
        rw [same] at enlists
        exact ⟨transition, List.mem_append_left _ found, enlists⟩
      · exact ⟨_, List.mem_append_right _ (List.mem_singleton.2 rfl),
          enlists⟩

end Run

/--
In every run an action puts at most one event on the sink, and only while the
interface of the event is watched.  After a stop there is no event for its
interface until a start has inserted the interface again; and what is put on
the sink by a start belongs to one that has not failed, since a start that
fails changes nothing.
-/
theorem published_while_watched {history : List Transition}
    {observer : Observer} (run : Run history observer) :
    (∀ transition ∈ history,
      transition.after.outbox = transition.before.outbox ∨
        (transition.action = .listen ∧ transition.after.outbox = []) ∨
        ∃ event, transition.Puts event) ∧
    (∀ transition ∈ history, ∀ event, transition.Puts event →
      event.interface ∈ transition.before.watched ∧
        event.interface ∈ transition.after.watched) ∧
    (∀ earlier stop between put later event,
      history = earlier ++ stop :: (between ++ put :: later) →
      stop.Stops event.interface → put.Puts event →
        ∃ start ∈ between, start.Inserts event.interface) ∧
    (∀ start ∈ history, start.Fails → start.after = start.before) ∧
    (∀ earlier put later number event,
      history = earlier ++ put :: later →
      put.action = .startPublishes number → put.Puts event →
        ∃ start ∈ earlier, start.Enlists number event.interface) := by
  refine ⟨?_, ?_, ?_, ?_, ?_⟩
  · intro transition member
    rcases (run.effect_of_mem member).outbox_cases with
      same | cleared | ⟨event, put, -⟩
    · exact Or.inl same
    · exact Or.inr (Or.inl cleared)
    · exact Or.inr (Or.inr ⟨event, put⟩)
  · intro transition member event put
    obtain ⟨watched, same, -⟩ := (run.effect_of_mem member).watched_of_put put
    exact ⟨watched, same ▸ watched⟩
  · intro earlier stop between put later event cut stops puts
    rw [← List.cons_append, ← List.append_assoc] at cut
    obtain ⟨front, effect⟩ := run.split cut
    obtain ⟨watched, -⟩ := effect.watched_of_put puts
    refine Classical.byContradiction fun none => ?_
    have never : ∀ transition ∈ between,
        ¬ transition.Inserts event.interface :=
      fun transition member inserts => none ⟨transition, member, inserts⟩
    exact front.not_mem_watched rfl stops never watched
  · rintro start member ⟨interface, answer, error, isStart, failed⟩
    have effect := run.effect_of_mem member
    rw [isStart] at effect
    exact effect.eq_of_refused failed
  · intro earlier put later number event cut isStart puts
    obtain ⟨front, effect⟩ := run.split cut
    obtain ⟨-, -, pending⟩ := effect.watched_of_put puts
    obtain ⟨start, member, same⟩ := pending number isStart
    rw [← same]
    exact front.enlisted member

/--
An interface is stopped while its status is read, another cannot be started,
and the first one is started again.
-/
def slowRead : List Action :=
  [.listen, .enrol ⟨1⟩ (.ok 0), .notify ⟨⟨1⟩, none⟩, .receive 0, .check 0,
    .withdraw ⟨1⟩, .read 0 .up, .publish 0, .startReads 0 .up,
    .startPublishes 0, .enrol ⟨2⟩ (.error .unavailable),
    .enrol ⟨1⟩ (.ok 1), .startReads 1 .down, .startPublishes 1]

theorem published_while_watched_slowRead :
    ∃ earlier stop between put,
      perform {} slowRead = earlier ++ stop :: (between ++ [put]) ∧
        stop.Stops ⟨1⟩ ∧
        put.Puts { status := .disconnected, interface := ⟨1⟩ } ∧
        (∃ start ∈ between, start.Inserts ⟨1⟩) ∧
        (∃ start ∈ earlier ++ stop :: between, start.Enlists 1 ⟨1⟩) ∧
        ∃ start ∈ perform {} slowRead,
          start.Fails ∧ start.after = start.before := by
  have run := Run.created.perform slowRead
  rw [List.nil_append] at run
  obtain ⟨-, -, stopped, failed, started⟩ := published_while_watched run
  have cut : perform {} slowRead =
      (perform {} slowRead).take 5 ++ (perform {} slowRead)[5] ::
        (((perform {} slowRead).drop 6).take 7 ++
          [(perform {} slowRead)[13]]) := rfl
  have stops : (perform {} slowRead)[5].Stops ⟨1⟩ := Or.inl rfl
  have puts : (perform {} slowRead)[13].Puts
      { status := .disconnected, interface := ⟨1⟩ } := rfl
  have cutPut : perform {} slowRead =
      ((perform {} slowRead).take 5 ++ (perform {} slowRead)[5] ::
        ((perform {} slowRead).drop 6).take 7) ++
          (perform {} slowRead)[13] :: [] := rfl
  have fails : (perform {} slowRead)[10].Fails :=
    ⟨⟨2⟩, .error .unavailable, .unavailable, rfl, rfl⟩
  have member : (perform {} slowRead)[10] ∈ perform {} slowRead :=
    List.getElem_mem (by decide)
  exact ⟨_, _, _, _, cut, stops, puts, stopped _ _ _ _ _ _ cut stops puts,
    started _ _ _ _ _ cutPut rfl puts, _, member, fails,
    failed _ member fails⟩

end Watch

end Tunnel
