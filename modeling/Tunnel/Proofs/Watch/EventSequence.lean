import Tunnel.Proofs.Watch.Delivery
import Tunnel.Proofs.Watch.Ownership

/-!
# The events of a consumer

While the watched set stays as it is and a listener is attached, a consumer is
followed through any history of its observer: calls, other consumers and
notifications may come between any two of its sections, and the end of its
source as often as it likes, as long as it can subscribe again.  What reaches
the consumer in a history, what the monitor says to it and what it puts on the
sink are read off the passages one by one, and after each passage the consumer
still serves its subscription.
-/

namespace Tunnel

namespace Watch

/-! ## Histories with the answers of the monitor -/

/-- Something that is done while a consumer is followed. -/
inductive Deed
  | acts (action : Action)
  /-- The consumer asks for a status, and the monitor gives an answer. -/
  | reads (answer : Except Error OperStatus)

namespace Deed

/-- What a deed is to the observer. -/
def action (index : Nat) : Deed → Action
  | acts action => action
  | reads answer => .read index (readStatus answer)

/--
The consumer does not die of a failure of its own, it gets the subscription
that it asks for, and what it reads is what the monitor says.
-/
def isFair (index : Nat) : Deed → Bool
  | acts (.die other) | acts (.resubscribe other (.error _))
  | acts (.read other _) => other ≠ index
  | _ => true

/-- A section of the consumer, which nothing outside brings about. -/
def isOwn (index : Nat) : Deed → Bool
  | reads _ => true
  | acts (.receive other) | acts (.noticeEnd other) | acts (.check other)
  | acts (.publish other) | acts (.leave other)
  | acts (.resubscribe other _) | acts (.gather other _) => other = index
  | acts _ => false

end Deed

/-- A deed, with the observer before and after it. -/
structure Passage where
  before : Observer
  deed : Deed
  after : Observer

namespace Passage

variable (index : Nat) (passage : Passage)

/-- What reaches the consumer; a change cannot when its source has ended. -/
def arrivals : List Arrival :=
  match passage.deed with
  | .acts (.notify change) =>
      if passage.before.has Consumer.isReachable index then [.told change]
      else []
  | .acts (.deliver other change) =>
      if other = index then [.told change] else []
  | .acts (.endSource other) => if other = index then [.ended] else []
  | _ => []

/-- What the monitor says to the consumer. -/
def replies : List Reply :=
  match passage.deed with
  | .reads answer =>
      ((passage.before.consumers[index]?.bind (·.phase.awaited?)).map
        (⟨·, answer⟩)).toList
  | .acts _ => []

/-- What the consumer puts on the sink. -/
def events : List StatusEvent :=
  match passage.deed with
  | .acts (.publish other) =>
      if other = index then
        passage.after.outbox.drop passage.before.outbox.length
      else []
  | _ => []

/-- Nothing disturbs the consumer: the set is kept and a listener attached. -/
structure IsCalm (watched : List InterfaceId) : Prop where
  fair : passage.deed.isFair index = true
  watched : passage.after.watched = watched
  heard : passage.after.sink = .attached

instance (watched : List InterfaceId) :
    Decidable (passage.IsCalm index watched) :=
  decidable_of_iff
    (passage.deed.isFair index = true ∧ passage.after.watched = watched ∧
      passage.after.sink = .attached)
    ⟨fun ⟨fair, watched, heard⟩ => ⟨fair, watched, heard⟩,
      fun ⟨fair, watched, heard⟩ => ⟨fair, watched, heard⟩⟩

end Passage

/-- All that has reached the consumer in a history. -/
def arrivals (index : Nat) (history : List Passage) : List Arrival :=
  history.flatMap (Passage.arrivals index)

/-- All that the monitor has said to the consumer in a history. -/
def replies (index : Nat) (history : List Passage) : List Reply :=
  history.flatMap (Passage.replies index)

/-- All that the consumer has put on the sink in a history. -/
def events (index : Nat) (history : List Passage) : List StatusEvent :=
  history.flatMap (Passage.events index)

/-- What has been done while a consumer was followed undisturbed. -/
inductive Attended (start : Observer) (index : Nat) :
    List Passage → Observer → Prop
  | begun : Attended start index [] start
  | step {history before after} (deed : Deed)
      (attended : Attended start index history before)
      (happens : before.step (deed.action index) = some after)
      (calm : Passage.IsCalm index ⟨before, deed, after⟩ start.watched) :
      Attended start index (history ++ [⟨before, deed, after⟩]) after

/-! ## What a deed does to the consumer -/

section Steps

variable {before after : Observer} {action : Action} {index : Nat}
  {consumer : Consumer} {watched : List InterfaceId}
  {arrivals : List Arrival} {replies : List Reply}
  {events : List StatusEvent}

/-- Where the consumer is concerned, nobody else does anything. -/
theorem Effect.getElem?_of_foreign (effect : Effect before action after)
    (foreign : action.consumer? ≠ some index)
    (unpublished : action ≠ .publish index)
    (untold : ∀ change, action ≠ .notify change)
    (kept : after.watched = before.watched) (watching : before.watched ≠ [])
    (found : before.consumers[index]? = some consumer) :
    after.consumers[index]? = some consumer := by
  cases effect with
  | joined _ _ => rwa [Observer.enlist_consumers]
  | spawned _ =>
      rw [Observer.enlist_consumers]
      exact (List.getElem?_append_left
        (List.getElem?_eq_some_iff.1 found).1).trans found
  | startPublishes _ => rwa [Observer.publish_consumers]
  | emptied _ | withdrawAll =>
      rw [Observer.withdrawAll_watched] at kept
      exact absurd kept.symm watching
  | notify => exact absurd rfl (untold _)
  | progress own _ _ _ =>
      rwa [Observer.getElem?_setConsumer_of_ne]
      rintro rfl
      exact foreign own
  | publish _ _ =>
      rwa [Observer.publish_consumers, Observer.getElem?_setConsumer_of_ne]
      rintro rfl
      exact unpublished rfl
  | _ => exact found

/-- A section leaves the consumer as the section of its phase does. -/
theorem serves_of_section {advance? : Consumer → Option Consumer}
    (happens : before.stepConsumer index advance? = some after)
    (found : before.consumers[index]? = some consumer)
    (keeps : ∀ next, advance? consumer = some next →
      next.Serves watched arrivals replies events) :
    ∃ next, after.consumers[index]? = some next ∧
      next.Serves watched arrivals replies events := by
  obtain ⟨old, new, held, changed, rfl⟩ :=
    Observer.stepConsumer_eq_some happens
  cases held.symm.trans found
  exact ⟨new, before.getElem?_setConsumer found new, keeps new changed⟩

/-- By its own sections the consumer goes on with what it is at. -/
theorem serves_of_own (happens : before.step action = some after)
    (own : action.consumer? = some index)
    (fair : (Deed.acts action).isFair index = true)
    (undelivered : ∀ change, action ≠ .deliver index change)
    (going : action ≠ .endSource index) (watching : before.watched ≠ [])
    (found : before.consumers[index]? = some consumer)
    (serves : consumer.Serves before.watched arrivals replies events) :
    ∃ next, after.consumers[index]? = some next ∧
      next.Serves before.watched arrivals replies events := by
  cases action with
  | die other | read other _ =>
      cases own
      exact absurd rfl (of_decide_eq_true fair)
  | abort other =>
      cases own
      refine serves_of_section happens found fun next ended => ?_
      have possible := (Option.ite_none_right_eq_some.1 ended).1
      rw [serves.unreleased] at possible
      cases possible
  | deliver other change =>
      cases own
      exact absurd rfl (undelivered change)
  | endSource other =>
      cases own
      exact absurd rfl going
  | receive other =>
      cases own
      exact serves_of_section happens found fun _ => serves.receive
  | noticeEnd other =>
      cases own
      exact serves_of_section happens found fun _ => serves.noticeEnd
  | check other =>
      cases own
      exact serves_of_section happens found fun _ =>
        serves.check fun _ => before.isWatching_iff
  | leave other =>
      cases own
      have anyWatched : (!before.watched.isEmpty) = true := by
        simpa using watching
      refine serves_of_section happens found fun next left => ?_
      rw [anyWatched] at left
      exact serves.leave left
  | resubscribe other answer =>
      cases own
      cases answer with
      | error error => exact absurd rfl (of_decide_eq_true fair)
      | ok source =>
          exact serves_of_section happens found fun _ => serves.resubscribe
  | gather other order =>
      cases own
      obtain ⟨all, happens⟩ := Option.ite_none_right_eq_some.1 happens
      exact serves_of_section happens found fun _ => serves.gather all
  | _ => cases own

/-- After a passage the consumer serves its subscription, as is recorded. -/
def Passage.Serves (passage : Passage) (index : Nat)
    (watched : List InterfaceId) (arrivals : List Arrival)
    (replies : List Reply) (events : List StatusEvent) : Prop :=
  ∃ next, passage.after.consumers[index]? = some next ∧
    next.Serves watched (arrivals ++ passage.arrivals index)
      (replies ++ passage.replies index) (events ++ passage.events index)

/-- Where nothing is said or published, only the arrival is recorded. -/
theorem Passage.serves_of_arrival {passage : Passage}
    {arrived : List Arrival} (reached : passage.arrivals index = arrived)
    (unreplied : passage.replies index = [])
    (unpublished : passage.events index = [])
    (served : ∃ next, passage.after.consumers[index]? = some next ∧
      next.Serves watched (arrivals ++ arrived) replies events) :
    passage.Serves index watched arrivals replies events := by
  unfold Passage.Serves
  rw [reached, unreplied, unpublished, List.append_nil, List.append_nil]
  exact served

/-- Where nothing is recorded, only the consumer is looked at. -/
theorem Passage.serves_of_unrecorded {passage : Passage}
    (unreached : passage.arrivals index = [])
    (unreplied : passage.replies index = [])
    (unpublished : passage.events index = [])
    (served : ∃ next, passage.after.consumers[index]? = some next ∧
      next.Serves watched arrivals replies events) :
    passage.Serves index watched arrivals replies events := by
  refine Passage.serves_of_arrival unreached unreplied unpublished ?_
  rw [List.append_nil]
  exact served

theorem serves_of_read {answer : Except Error OperStatus}
    (happens : before.step (.read index (readStatus answer)) = some after)
    (found : before.consumers[index]? = some consumer)
    (serves : consumer.Serves watched arrivals replies events) :
    Passage.Serves ⟨before, .reads answer, after⟩ index watched arrivals
      replies events := by
  obtain ⟨old, new, held, read, rfl⟩ := Observer.stepConsumer_eq_some happens
  cases held.symm.trans found
  obtain ⟨interface, awaited, served⟩ := serves.read read
  refine ⟨new, before.getElem?_setConsumer found new, ?_⟩
  simpa [Passage.arrivals, Passage.replies, Passage.events, found, awaited]
    using served

theorem serves_of_publish
    (happens : before.step (.publish index) = some after)
    (heard : after.sink = .attached)
    (found : before.consumers[index]? = some consumer)
    (serves : consumer.Serves before.watched arrivals replies events) :
    Passage.Serves ⟨before, .acts (.publish index), after⟩ index
      before.watched arrivals replies events := by
  cases effect_of_step happens with
  | progress own _ _ _ => cases own
  | @publish _ old interface status next held stands =>
      cases held.symm.trans found
      obtain ⟨member, served⟩ := serves.publish stands
      have put := Observer.publish_heard heard member
      refine ⟨{ consumer with phase := Phase.reads next }, ?_, ?_⟩
      · rw [Observer.publish_consumers]
        exact before.getElem?_setConsumer found _
      · have last := congrArg (List.drop before.outbox.length) put
        rw [Observer.setConsumer, List.drop_left] at last
        simpa [Passage.arrivals, Passage.replies, Passage.events,
          Observer.setConsumer, last] using served

/-- A notification reaches the consumer unless its source has ended. -/
theorem serves_of_notify (change : InterfaceChange)
    (happens : before.step (.notify change) = some after)
    (found : before.consumers[index]? = some consumer)
    (serves : consumer.Serves watched arrivals replies events) :
    Passage.Serves ⟨before, .acts (.notify change), after⟩ index watched
      arrivals replies events := by
  have reached : Passage.arrivals index ⟨before, .acts (.notify change),
      after⟩ = if consumer.isReachable then [.told change] else [] := by
    simp [Passage.arrivals, Observer.has_of_getElem? found]
  refine Passage.serves_of_arrival reached rfl rfl
    ⟨consumer.deliver change, ?_, serves.deliver change⟩
  cases happens
  rw [List.getElem?_map, found, Option.map_some]

theorem serves_of_deliver {change : InterfaceChange}
    (happens : before.step (.deliver index change) = some after)
    (found : before.consumers[index]? = some consumer)
    (serves : consumer.Serves watched arrivals replies events) :
    Passage.Serves ⟨before, .acts (.deliver index change), after⟩ index
      watched arrivals replies events := by
  refine Passage.serves_of_arrival (if_pos rfl) rfl rfl
    (serves_of_section happens found fun next arrived => ?_)
  obtain ⟨reachable, same⟩ := Option.ite_none_right_eq_some.1 arrived
  have delivered := serves.deliver change
  rw [if_pos reachable] at delivered
  cases same
  exact delivered

theorem serves_of_endSource
    (happens : before.step (.endSource index) = some after)
    (found : before.consumers[index]? = some consumer)
    (serves : consumer.Serves watched arrivals replies events) :
    Passage.Serves ⟨before, .acts (.endSource index), after⟩ index watched
      arrivals replies events := by
  refine Passage.serves_of_arrival (if_pos rfl) rfl rfl
    (serves_of_section happens found fun next closed => ?_)
  obtain ⟨reachable, same⟩ := Option.ite_none_right_eq_some.1 closed
  cases same
  exact serves.endSource reachable

/-- Whatever is done, the consumer goes on serving its subscription. -/
theorem serves_of_step {deed : Deed}
    (happens : before.step (deed.action index) = some after)
    (calm : Passage.IsCalm index ⟨before, deed, after⟩ before.watched)
    (watching : before.watched ≠ [])
    (found : before.consumers[index]? = some consumer)
    (serves : consumer.Serves before.watched arrivals replies events) :
    Passage.Serves ⟨before, deed, after⟩ index before.watched arrivals
      replies events := by
  obtain ⟨fair, kept, heard⟩ := calm
  cases deed with
  | reads answer => exact serves_of_read happens found serves
  | acts action =>
      -- What is not recorded is a section of the consumer or concerns others.
      have goes : (∀ change, action ≠ .deliver index change) →
          action ≠ .endSource index → action ≠ .publish index →
          (∀ change, action ≠ .notify change) →
          ∃ next, after.consumers[index]? = some next ∧
            next.Serves before.watched arrivals replies events := by
        intro undelivered going unpublished untold
        by_cases own : action.consumer? = some index
        · exact serves_of_own happens own fair undelivered going watching
            found serves
        · exact ⟨consumer, (effect_of_step happens).getElem?_of_foreign own
            unpublished untold kept watching found, serves⟩
      cases action with
      | notify change => exact serves_of_notify change happens found serves
      | deliver other change =>
          by_cases same : other = index
          · cases same
            exact serves_of_deliver happens found serves
          · exact Passage.serves_of_unrecorded (if_neg same) rfl rfl
              (goes (by simp [same]) nofun nofun nofun)
      | endSource other =>
          by_cases same : other = index
          · cases same
            exact serves_of_endSource happens found serves
          · exact Passage.serves_of_unrecorded (if_neg same) rfl rfl
              (goes nofun (by simp [same]) nofun nofun)
      | publish other =>
          by_cases same : other = index
          · cases same
            exact serves_of_publish happens heard found serves
          · exact Passage.serves_of_unrecorded rfl rfl (if_neg same)
              (goes nofun nofun (by simp [same]) nofun)
      | _ =>
          exact Passage.serves_of_unrecorded rfl rfl rfl
            (goes nofun nofun nofun nofun)

end Steps

/-! ## Histories -/

section Histories

variable {start observer : Observer} {index : Nat} {history : List Passage}
  {opening : Consumer}

theorem arrivals_append (later : List Passage) :
    arrivals index (history ++ later) =
      arrivals index history ++ arrivals index later :=
  List.flatMap_append

theorem arrivals_concat (passage : Passage) :
    arrivals index (history ++ [passage]) =
      arrivals index history ++ passage.arrivals index := by
  simp [arrivals]

theorem replies_concat (passage : Passage) :
    replies index (history ++ [passage]) =
      replies index history ++ passage.replies index := by
  simp [replies]

theorem events_concat (passage : Passage) :
    events index (history ++ [passage]) =
      events index history ++ passage.events index := by
  simp [events]

/-- A consumer that is to take its next change has served what it took. -/
theorem serves_opening (unreleased : opening.released = false)
    (ready : opening.phase = .receiving) (watched : List InterfaceId) :
    opening.Serves watched opening.waiting [] [] := by
  refine ⟨unreleased, fun parting => ?_, [], rfl, ?_⟩
  · rw [ready] at parting
    cases parting
  · rw [ready]
    exact .receiving .nothing

namespace Attended

/-- In every history the consumer serves its subscription. -/
theorem serves (attended : Attended start index history observer)
    (watching : start.watched ≠ [])
    (found : start.consumers[index]? = .some opening)
    (serves : opening.Serves start.watched opening.waiting [] []) :
    observer.watched = start.watched ∧
      ∃ consumer, observer.consumers[index]? = some consumer ∧
        consumer.Serves start.watched
          (opening.waiting ++ arrivals index history)
          (replies index history) (events index history) := by
  induction attended with
  | begun =>
      rw [arrivals, replies, events, List.flatMap_nil, List.flatMap_nil,
        List.flatMap_nil, List.append_nil]
      exact ⟨rfl, opening, found, serves⟩
  | step deed _ happens calm ih =>
      obtain ⟨same, consumer, held, served⟩ := ih
      refine ⟨calm.watched, ?_⟩
      rw [← same] at watching calm served
      rw [arrivals_concat, replies_concat, events_concat, ← same,
        ← List.append_assoc]
      exact serves_of_step happens calm watching held served

end Attended

end Histories

/-! ## Concrete histories -/

/-- The passages of deeds in a row, up to one that cannot happen. -/
def attend (index : Nat) : Observer → List Deed → List Passage
  | _, [] => []
  | observer, deed :: rest =>
      match observer.step (deed.action index) with
      | some next => ⟨observer, deed, next⟩ :: attend index next rest
      | none => []

/-- The observer after deeds in a row, up to one that cannot happen. -/
def afterDeeds (index : Nat) : Observer → List Deed → Observer
  | observer, [] => observer
  | observer, deed :: rest =>
      match observer.step (deed.action index) with
      | some next => afterDeeds index next rest
      | none => observer

/-- Deeds in a row that do not disturb the consumer continue a history. -/
theorem Attended.attend {start observer : Observer} {index : Nat}
    {history : List Passage} (attended : Attended start index history observer)
    (deeds : List Deed)
    (calm : ∀ passage ∈ Watch.attend index observer deeds,
      passage.IsCalm index start.watched) :
    Attended start index (history ++ Watch.attend index observer deeds)
      (afterDeeds index observer deeds) := by
  induction deeds generalizing history observer with
  | nil =>
      rw [Watch.attend, List.append_nil]
      exact attended
  | cons deed rest ih =>
      rw [Watch.attend] at calm ⊢
      rw [afterDeeds]
      split at calm
      · next next happens =>
          obtain ⟨first, others⟩ := List.forall_mem_cons.1 calm
          have longer := ih (attended.step deed happens first) others
          rw [List.append_assoc] at longer
          simpa [happens] using longer
      · next stuck =>
          simpa [stuck] using attended

end Watch

end Tunnel
