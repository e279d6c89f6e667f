import Tunnel.Proofs.Watch.Resubscription

/-!
# What the listener knows in the end

Even with a truthful monitor an event may be outdated: reading a status and
publishing it are two sections, and the interface may change between them.
The consumer at hand makes this good, since the change is ahead of it and is
published later (`IsInformed`).  Others do not: a start publishes once what it
has read, and a consumer that was handed over may be ended before it comes to
the change.  Such an event is overtaken.

When everything has come to rest, the last event of a watched interface either
carries its status or is overtaken; except that a start which takes the place
of a dead consumer reads its own interface only, and neglects the others.
-/

namespace Tunnel

namespace Watch

/-! ## What a consumer makes good -/

/--
Of a consumer at work: what is ahead of it last is not outdated, and if
nothing is, then a start will still report the interface, or the last report
stands, or none was made since the interface was neglected.
-/
structure IsInformed (history : List Moment) (statuses : Statuses)
    (observer : Observer) (consumer : Consumer) (interface : InterfaceId) :
    Prop where
  current : IsCurrent (statuses interface) (consumer.ahead interface)
  settled : interface ∈ observer.watched →
    consumer.ahead interface = [] →
      observer.IsStarting interface ∨
        Since (·.Neglects interface) history interface ∨
        Since (·.Reports statuses interface) history interface

/-- The consumer at hand is informed of every interface, if it is at work. -/
def Informs (history : List Moment) (statuses : Statuses)
    (observer : Observer) : Prop :=
  ∀ handle consumer, observer.stored = some handle →
    observer.consumers[handle]? = some consumer →
    consumer.isRunning = true → ∀ interface,
      IsInformed history statuses observer consumer interface

section Informed

variable {history : List Moment} {statuses : Statuses}
  {before after : Observer} {action : Action} {interface : InterfaceId}

theorem isSilentOn_of_outbox
    (unmoved : interface ∈ after.watched → interface ∈ before.watched)
    (quiet : ∀ status : ConnectionStatus,
      after.outbox ≠ before.outbox ++ [⟨status, interface⟩]) :
    (Moment.mk statuses ⟨before, action, after⟩).IsSilentOn interface :=
  ⟨fun ⟨_, absent, present⟩ => absent (unmoved present), quiet⟩

theorem outbox_ne_concat (same : after.outbox = before.outbox)
    (event : StatusEvent) : after.outbox ≠ before.outbox ++ [event] := by
  rw [same]
  simp

/-- A publication says nothing of other interfaces. -/
theorem publish_outbox_ne (observer : Observer) {other : InterfaceId}
    (different : other ≠ interface) (status : OperStatus)
    (shown : ConnectionStatus) :
    (observer.publish other status).outbox ≠
      observer.outbox ++ [{ status := shown, interface }] := by
  intro put
  rcases observer.publish_outbox other status with same | ⟨-, longer⟩
  · rw [same] at put
    simp at put
  · rw [longer] at put
    cases List.append_cancel_left put
    exact different rfl

/-- What is silent on an interface leaves its consumer informed. -/
theorem IsInformed.kept {consumer next : Consumer} {present : Statuses}
    (informed : IsInformed history statuses before consumer interface)
    (unchanged : present interface = statuses interface)
    (current : IsCurrent (present interface) (next.ahead interface))
    (busy : interface ∈ before.watched → next.ahead interface = [] →
      consumer.ahead interface = [])
    (unmoved : interface ∈ after.watched → interface ∈ before.watched)
    (starting : before.IsStarting interface → after.IsStarting interface)
    (quiet : ∀ status : ConnectionStatus,
      after.outbox ≠ before.outbox ++ [⟨status, interface⟩]) :
    IsInformed (history ++ [⟨present, ⟨before, action, after⟩⟩]) present
      after next interface := by
  have silent : (Moment.mk present ⟨before, action, after⟩).IsSilentOn
      interface := isSilentOn_of_outbox unmoved quiet
  refine ⟨current, fun member empty => ?_⟩
  have watched := unmoved member
  rcases informed.settled watched (busy watched empty) with
    pending | neglected | ⟨earlier, moment, later, cut, reports, silence⟩
  · exact Or.inl (starting pending)
  · exact Or.inr (Or.inl (neglected.concat silent))
  · refine Or.inr (Or.inr (Since.concat ?_ silent))
    refine ⟨earlier, moment, later, cut, ?_, silence⟩
    unfold Moment.Reports at reports ⊢
    rwa [unchanged]

/-- What leaves the consumer at hand and the sink alone. -/
theorem Informs.calm (informs : Informs history statuses before)
    (stored : after.stored = before.stored)
    (consumer : ∀ handle, before.stored = some handle →
      after.consumers[handle]? = before.consumers[handle]?)
    (fewer : ∀ interface ∈ after.watched, interface ∈ before.watched)
    (starting : ∀ interface, before.IsStarting interface →
      after.IsStarting interface)
    (quiet : ∀ event, after.outbox ≠ before.outbox ++ [event]) :
    Informs (history ++ [⟨statuses, ⟨before, action, after⟩⟩]) statuses
      after := by
  intro handle next held found running interface
  rw [stored] at held
  rw [consumer handle held] at found
  have informed := informs handle next held found running interface
  exact informed.kept rfl informed.current (fun _ => id)
    (fewer interface) (starting interface) fun _ => quiet _

/-- What leaves the consumer at hand alone and reports one interface late. -/
theorem Informs.report {status : OperStatus}
    (informs : Informs history statuses before)
    (stored : after.stored = before.stored)
    (consumer : ∀ handle, before.stored = some handle →
      after.consumers[handle]? = before.consumers[handle]?)
    (watched : after.watched = before.watched)
    (starting : ∀ other, interface ≠ other → before.IsStarting other →
      after.IsStarting other)
    (put : interface ∈ before.watched → after.outbox =
      before.outbox ++ [{ status := status.connection, interface }])
    (quiet : ∀ other, interface ≠ other → ∀ status : ConnectionStatus,
      after.outbox ≠ before.outbox ++ [⟨status, other⟩])
    (late : (∃ number, action = .startPublishes number) ∨
      ∃ handle, action = .publish handle ∧
        before.isReleased handle = true) :
    Informs (history ++ [⟨statuses, ⟨before, action, after⟩⟩]) statuses
      after := by
  intro handle next held found running other
  rw [stored] at held
  rw [consumer handle held] at found
  have informed := informs handle next held found running other
  by_cases own : interface = other
  · cases own
    refine ⟨informed.current, fun member _ => Or.inr (Or.inr ?_)⟩
    refine since_concat ⟨status.connection, put (watched ▸ member), ?_⟩
    by_cases right : status.connection = (statuses interface).connection
    · exact Or.inl right
    · exact Or.inr ⟨right, late⟩
  · exact informed.kept rfl informed.current (fun _ => id)
      (fun member => watched ▸ member) (starting other own) (quiet other own)

/-! ### Starts -/

theorem Informs.enlist (informs : Informs history statuses before) :
    Informs
      (history ++ [⟨statuses, ⟨before, action, before.enlist interface⟩⟩])
      statuses (before.enlist interface) := by
  intro handle consumer held found running other
  rw [Observer.enlist_stored] at held
  rw [Observer.enlist_consumers] at found
  have informed := informs handle consumer held found running other
  by_cases own : other = interface
  · cases own
    exact ⟨informed.current,
      fun _ _ => Or.inl Observer.isStarting_enlist⟩
  · refine informed.kept rfl informed.current (fun _ => id) ?_
      Observer.IsStarting.enlist fun _ => ?_
    · intro member
      exact (before.mem_insert.1 member).resolve_right own
    · exact outbox_ne_concat (before.insert_outbox interface) _

/-- A new consumer has nothing ahead, and what it finds watched is neglected. -/
theorem informs_spawn {source : Nat}
    (unsubscribed : before.isSubscribed = false) :
    Informs
      (history ++ [⟨statuses, ⟨before, .enrol interface (.ok source),
        (before.spawn source).enlist interface⟩⟩])
      statuses ((before.spawn source).enlist interface) := by
  intro handle consumer held found running other
  have last : handle = before.consumers.length :=
    (Option.some.inj ((Observer.enlist_stored _ _).symm.trans held)).symm
  have live : ((before.spawn source).enlist interface).isSubscribed = true :=
    (Observer.isSubscribed_iff _).2
      ⟨handle, consumer, held, found, running⟩
  rw [Observer.enlist_consumers, last, Observer.spawn,
    List.getElem?_concat_length] at found
  cases found
  refine ⟨isCurrent_nil, fun member _ => ?_⟩
  by_cases own : other = interface
  · cases own
    exact Or.inl Observer.isStarting_enlist
  · refine Or.inr (Or.inl (since_concat ?_))
    refine ⟨interface, rfl, Ne.symm own, unsubscribed, live, ?_⟩
    exact ((before.spawn source).mem_insert.1 member).resolve_right own

theorem Informs.startPublishes {number : Nat} {status : OperStatus}
    (informs : Informs history statuses before)
    (numbers : before.NumbersStarts) (heard : after.sink = .attached)
    (found : before.start? number =
      some { interface, status := some status })
    (posted : after = Observer.publish
      { before with starts := before.starts.filter (·.1 ≠ number) }
      interface status) :
    Informs
      (history ++ [⟨statuses, ⟨before, .startPublishes number, after⟩⟩])
      statuses after := by
  cases posted
  refine informs.report (Observer.publish_stored _ _ _) ?_
    (Observer.publish_watched _ _ _) ?_
    (fun member => Observer.publish_heard heard member)
    (fun other own => publish_outbox_ne _ own status)
    (Or.inl ⟨number, rfl⟩)
  · intro handle _
    rw [Observer.publish_consumers]
  · intro other own starting
    obtain ⟨pending, start, member, same⟩ :=
      isStarting_filter found numbers own starting
    refine ⟨pending, start, ?_, same⟩
    rw [Observer.publish_starts]
    exact member

/-! ### Consumers -/

theorem Informs.notify {change : InterfaceChange} {present : Statuses}
    (informs : Informs history statuses before)
    (others : ∀ other, other ≠ change.interface →
      present other = statuses other)
    (truthful : ∀ status, change.status = some status →
      status = present change.interface)
    (told : after = { before with
      consumers := before.consumers.map (Consumer.deliver change) }) :
    Informs (history ++ [⟨present, ⟨before, action, after⟩⟩]) present
      after := by
  cases told
  intro handle next held stands running interface
  dsimp only at held stands
  rw [List.getElem?_map] at stands
  obtain ⟨consumer, found, rfl⟩ := Option.map_eq_some_iff.1 stands
  have working : consumer.isRunning = true := by
    unfold Consumer.isRunning at running ⊢
    rwa [Consumer.deliver_phase] at running
  have informed := informs handle consumer held found working interface
  by_cases own : interface = change.interface
  · cases own
    obtain ⟨front, prospect, ends, good⟩ :=
      ahead_deliver_self working truthful
    constructor
    · rw [ends]
      exact isCurrent_concat good
    · intro _ empty
      rw [ends] at empty
      cases List.append_ne_nil_of_right_ne_nil _ (List.cons_ne_nil _ _) empty
  · have same : (consumer.deliver change).ahead interface =
        consumer.ahead interface := ahead_deliver_of_ne (Ne.symm own)
    refine informed.kept (others _ own) ?_ ?_ id id
      (fun _ => outbox_ne_concat rfl _)
    · rw [same, others _ own]
      exact informed.current
    · intro _ empty
      rwa [same] at empty

/-- A section of one consumer, as far as the shared state is concerned. -/
theorem Informs.setConsumer {index : Nat} {consumer next : Consumer}
    (informs : Informs history statuses before)
    (found : before.consumers[index]? = some consumer)
    (working : consumer.isRunning = true)
    (keeps : next.isRunning = true →
      Keeps statuses before.watched consumer next) :
    Informs
      (history ++
        [⟨statuses, ⟨before, action, before.setConsumer index next⟩⟩])
      statuses (before.setConsumer index next) := by
  by_cases own : before.stored = some index
  · intro handle other held stands running interface
    cases Option.some.inj (own.symm.trans held)
    cases (before.getElem?_setConsumer found next).symm.trans stands
    have informed := informs index consumer own found working interface
    have kept := keeps running
    exact informed.kept rfl (kept.current interface informed.current)
      (kept.busy interface) id id fun _ => outbox_ne_concat rfl _
  · refine informs.calm rfl ?_ (fun _ => id) (fun _ => id)
      (outbox_ne_concat rfl)
    intro handle held
    refine before.getElem?_setConsumer_of_ne ?_ next
    rintro rfl
    exact own held

/--
A consumer publishes.  If it is the one at hand and nothing is ahead of it
then, what it has published was not outdated.
-/
theorem Informs.publish {index : Nat} {consumer : Consumer}
    {status : OperStatus} {next : List InterfaceId}
    (informs : Informs history statuses before)
    (heard : after.sink = .attached)
    (owned : before.stored = some index ∨ before.isReleased index = true)
    (found : before.consumers[index]? = some consumer)
    (stands : consumer.phase = .publishing interface status next)
    (posted : after = (before.setConsumer index
      { consumer with phase := Phase.reads next }).publish interface status) :
    Informs (history ++ [⟨statuses, ⟨before, .publish index, after⟩⟩])
      statuses after := by
  have stored : after.stored = before.stored := by
    rw [posted, Observer.publish_stored]
    rfl
  have consumers : after.consumers = (before.setConsumer index
      { consumer with phase := Phase.reads next }).consumers := by
    rw [posted, Observer.publish_consumers]
  have watched : after.watched = before.watched := by
    rw [posted, Observer.publish_watched]
    rfl
  have starting : ∀ other, before.IsStarting other →
      after.IsStarting other := by
    rintro other ⟨number, start, member, same⟩
    refine ⟨number, start, ?_, same⟩
    rw [posted, Observer.publish_starts]
    exact member
  have put : interface ∈ before.watched → after.outbox =
      before.outbox ++ [⟨status.connection, interface⟩] := by
    intro member
    rw [posted] at heard ⊢
    exact Observer.publish_heard heard member
  have quiet : ∀ other, interface ≠ other → ∀ shown : ConnectionStatus,
      after.outbox ≠ before.outbox ++ [⟨shown, other⟩] := by
    intro other own shown
    rw [posted]
    exact publish_outbox_ne _ own status shown
  by_cases own : before.stored = some index
  · intro handle last held found' _ other
    cases Option.some.inj (own.symm.trans (stored.symm.trans held))
    rw [consumers, before.getElem?_setConsumer found] at found'
    cases found'
    have informed := informs index consumer own found
      (isRunning_of_phase stands Phase.noConfusion) other
    have ahead := ahead_of_publishing stands other
    have current := informed.current
    rw [ahead] at current
    by_cases same : interface = other
    · cases same
      -- If nothing is left, the status it held was the last and so current.
      refine ⟨current.tail, fun member empty => Or.inr (Or.inr ?_)⟩
      rw [if_pos rfl, empty, List.append_nil] at current
      cases current status rfl
      exact since_concat ⟨_, put (watched ▸ member), Or.inl rfl⟩
    · rw [if_neg same, List.nil_append] at ahead
      refine informed.kept rfl current.tail ?_ ?_ (starting other)
        (quiet other same)
      · intro _ empty
        rw [ahead, empty]
      · exact fun member => watched ▸ member
  · refine informs.report stored ?_ watched (fun other _ => starting other)
      put quiet (Or.inr ⟨index, rfl, owned.resolve_left own⟩)
    intro handle held
    rw [consumers]
    refine before.getElem?_setConsumer_of_ne ?_ _
    rintro rfl
    exact own held

/-! ### Sections -/

theorem Informs.advance {index : Nat}
    {advance? : Consumer → Option Consumer}
    (informs : Informs history statuses before)
    (isSection : IsSection advance?)
    (happens : before.stepConsumer index advance? = some after)
    (keeps : ∀ consumer next, before.consumers[index]? = some consumer →
      advance? consumer = some next → next.isRunning = true →
        Keeps statuses before.watched consumer next) :
    Informs (history ++ [⟨statuses, ⟨before, action, after⟩⟩]) statuses
      after := by
  obtain ⟨consumer, next, found, changed, rfl⟩ :=
    Observer.stepConsumer_eq_some happens
  exact informs.setConsumer found (isSection _ _ changed).1
    (keeps consumer next found changed)

/-- A section that ends its consumer asks for nothing. -/
theorem keeps_of_finish {condition : Bool} {consumer next : Consumer}
    (finished : (if condition then
      some { consumer with phase := .finished } else none) = some next)
    (running : next.isRunning = true) :
    Keeps statuses before.watched consumer next := by
  simp only [Option.ite_none_right_eq_some] at finished
  cases finished.2
  cases running

theorem Informs.progress {index : Nat}
    (informs : Informs history statuses before)
    (own : action.consumer? = some index)
    (truthful : action.IsTruthful statuses before)
    (happens : before.step action = some after) :
    Informs (history ++ [⟨statuses, ⟨before, action, after⟩⟩]) statuses
      after := by
  cases action with
  | abort index =>
      exact informs.advance
        (isSection_ite
          (fun consumer => consumer.released && consumer.isRunning)
          (fun consumer => { consumer with phase := .finished })
          (fun _ both => (Bool.and_eq_true_iff.1 both).2) fun _ => rfl)
        happens fun _ _ _ => keeps_of_finish
  | die index =>
      exact informs.advance
        (isSection_ite Consumer.isRunning
          (fun consumer => { consumer with phase := .finished })
          (fun _ => id) fun _ => rfl)
        happens fun _ _ _ => keeps_of_finish
  | deliver index change =>
      refine informs.advance
        (isSection_ite Consumer.isReachable (Consumer.deliver change)
          isRunning_of_isReachable (Consumer.deliver_released change))
        happens fun consumer next _ arrived _ => ?_
      simp only [Option.ite_none_right_eq_some] at arrived
      obtain ⟨reachable, same⟩ := arrived
      cases same
      exact keeps_deliver (isRunning_of_isReachable _ reachable)
        (carries_of_truthful truthful)
  | endSource index =>
      refine informs.advance
        (isSection_ite Consumer.isReachable Consumer.endSource
          isRunning_of_isReachable fun _ => rfl)
        happens fun consumer next _ closed _ => ?_
      simp only [Option.ite_none_right_eq_some] at closed
      cases closed.2
      exact keeps_endSource
  | receive index =>
      exact informs.advance isSection_receive happens
        fun _ _ _ taken _ => keeps_receive taken
  | noticeEnd index =>
      exact informs.advance isSection_noticeEnd happens
        fun _ _ _ noticed _ => keeps_noticeEnd noticed
  | check index =>
      exact informs.advance (isSection_check _) happens
        fun _ _ _ checked _ => keeps_check checked
  | read index status =>
      refine informs.advance (isSection_read status) happens
        fun consumer _ found read _ => keeps_read ?_ read
      intro interface next waits
      refine truthful (interface, status)
        (Option.map_eq_some_iff.2
          ⟨(.consumer index, interface, status), ?_, rfl⟩)
      exact reading?_read found (congrArg Phase.awaited? waits)
  | leave index =>
      exact informs.advance (isSection_leave _) happens
        fun _ _ _ left running => keeps_leave running left
  | resubscribe index answer =>
      exact informs.advance (isSection_resubscribe answer) happens
        fun _ _ _ resumed running => keeps_resubscribe running resumed
  | gather index order =>
      simp only [Observer.step, Option.ite_none_right_eq_some] at happens
      exact informs.advance (isSection_gather order) happens.2
        fun _ _ _ gathered _ => keeps_gather happens.1 gathered
  | _ => cases own

/-! ## Runs -/

/-- What acts of the observer leave of the knowledge of its consumer. -/
theorem Informs.act (informs : Informs history statuses before)
    (numbers : before.NumbersStarts)
    (owned : ∀ handle, before.isRunning handle = true →
      before.stored = some handle ∨ before.isReleased handle = true)
    (heard : after.sink = .attached)
    (truthful : action.IsTruthful statuses before)
    (happens : before.step action = some after) :
    Informs (history ++ [⟨statuses, ⟨before, action, after⟩⟩]) statuses
      after := by
  have effect := effect_of_step happens
  cases effect with
  | settled _ _ | refused _ | unwatched _ | cancelListen | abandon =>
      exact informs.calm rfl (fun _ _ => rfl) (fun _ => id) (fun _ => id)
        (outbox_ne_concat rfl)
  | joined _ _ => exact informs.enlist
  | spawned unsubscribed => exact informs_spawn unsubscribed
  | startReads _ =>
      exact informs.calm rfl (fun _ _ => rfl) (fun _ => id)
        (fun _ => isStarting_startReads (effect_of_step happens) numbers)
        (outbox_ne_concat rfl)
  | startPublishes found =>
      exact informs.startPublishes numbers heard found rfl
  | withdrawn _ _ =>
      exact informs.calm rfl (fun _ _ => rfl)
        (fun _ => List.mem_of_mem_erase) (fun _ => id)
        (outbox_ne_concat rfl)
  | emptied _ | withdrawAll =>
      -- There is no consumer at hand that could be asked.
      intro handle _ held
      cases held.symm.trans (Observer.release_stored _)
  | notify =>
      exact informs.notify (fun _ _ => rfl) (carries_of_truthful truthful)
        rfl
  | progress own _ _ _ => exact informs.progress own truthful happens
  | publish found stands =>
      refine informs.publish heard (owned _ ?_) found stands rfl
      exact (Observer.has_of_getElem? found).trans
        (isRunning_of_phase stands Phase.noConfusion)
  | listen =>
      refine informs.calm rfl (fun _ _ => rfl) (fun _ => id) (fun _ => id)
        fun event => ?_
      exact (List.append_ne_nil_of_right_ne_nil _
        (List.cons_ne_nil _ _)).symm

end Informed

namespace TruthfulRun

variable {history : List Moment} {statuses : Statuses}
  {observer : Observer}

/-- While it is at work, the consumer at hand is informed. -/
theorem informs (run : TruthfulRun history statuses observer)
    (heard : ∀ moment ∈ history, moment.IsHeard) :
    Informs history statuses observer := by
  induction run with
  | created => exact fun _ _ held => nomatch held
  | @step history statuses before next occurrence run truthful happens ih =>
      have informs := ih fun moment member =>
        heard moment (List.mem_append_left _ member)
      have numbers := run.run.numbersStarts
      have attached := heard _
        (List.mem_append_right _ (List.mem_singleton.2 rfl))
      cases occurrence with
      | acts action =>
          refine informs.act numbers ?_ attached truthful happens
          intro handle running
          rw [run.run.isReleased_iff]
          exact run.run.owned running
      | changes change status =>
          cases happens
          exact informs.notify
            (fun _ different => Function.update_of_ne different _ _)
            (carries_of_truthful truthful) rfl

end TruthfulRun

/--
Let every change of an interface be told to all subscriptions when it happens,
with the new status or without it, let what is read be the status then, and
let a listener stay attached.  When everything has come to rest and the
subscription is alive, then of every watched interface there was an event
since it was inserted last, and the last one carries the status of the
interface, or was overtaken; unless the interface was neglected and nothing
was published of it since.
-/
theorem last_report_fresh {history : List Moment} {statuses : Statuses}
    {observer : Observer} {interface : InterfaceId}
    (run : TruthfulRun history statuses observer)
    (heard : ∀ moment ∈ history, moment.IsHeard)
    (quiet : observer.IsQuiet) (live : observer.isSubscribed = true)
    (watched : interface ∈ observer.watched)
    (attended : ¬ Since (·.Neglects interface) history interface) :
    Since (·.Reports statuses interface) history interface := by
  obtain ⟨handle, consumer, held, found, running⟩ :=
    observer.isSubscribed_iff.1 live
  obtain ⟨receiving, drained, lasting⟩ :=
    quiet.2 consumer (List.mem_of_getElem? found) running
  have nothing : consumer.ahead interface = [] := by
    unfold Consumer.ahead
    rw [receiving, drained, lasting]
    rfl
  rcases (run.informs heard handle consumer held found running
      interface).settled watched nothing with
    ⟨number, start, pending, -⟩ | neglected | reported
  · rw [quiet.1] at pending
    cases pending
  · exact absurd neglected attended
  · exact reported

instance (transition : Transition) (event : StatusEvent) :
    Decidable (transition.Puts event) :=
  inferInstanceAs (Decidable (_ = _))

/-- An interface comes up before a start has published what it has read. -/
def slowStart : List Occurrence :=
  [.acts .listen, .acts (.enrol ⟨1⟩ (.ok 0)), .acts (.startReads 0 .down),
    .changes ⟨⟨1⟩, some .up⟩ .up, .acts (.startPublishes 0),
    .acts (.receive 0), .acts (.check 0), .acts (.publish 0)]

theorem last_report_fresh_slowStart :
    (experienced allDown {} slowStart).1 ⟨1⟩ = .up ∧
      Since (·.Reports (experienced allDown {} slowStart).1 ⟨1⟩)
        (experience allDown {} slowStart) ⟨1⟩ := by
  have run := (TruthfulRun.created allDown).experience slowStart
  rw [List.nil_append] at run
  refine ⟨rfl, last_report_fresh run ?_ ?_ rfl ?_ ?_⟩
  · decide
  · decide
  · decide
  · exact not_since_of_forall (by decide)

/-! ## Stale reports -/

/--
Everything has come to rest, and the last event of a watched interface does
not carry its status.
-/
structure EndsStale (occurrences : List Occurrence) (interface : InterfaceId) :
    Prop where
  run : TruthfulRun (experience allDown {} occurrences)
    (experienced allDown {} occurrences).1
    (experienced allDown {} occurrences).2
  heard : ∀ moment ∈ experience allDown {} occurrences, moment.IsHeard
  quiet : (experienced allDown {} occurrences).2.IsQuiet
  live : (experienced allDown {} occurrences).2.isSubscribed = true
  watched : interface ∈ (experienced allDown {} occurrences).2.watched
  stale : ¬ Since
    (·.transition.Puts
      ⟨((experienced allDown {} occurrences).1 interface).connection,
        interface⟩)
    (experience allDown {} occurrences) interface

/-- A start publishes what it has read after the consumer has published more. -/
def overtakenStart : List Occurrence :=
  [.acts .listen, .acts (.enrol ⟨1⟩ (.ok 0)), .acts (.startReads 0 .down),
    .changes ⟨⟨1⟩, some .up⟩ .up, .acts (.receive 0), .acts (.check 0),
    .acts (.publish 0), .acts (.startPublishes 0)]

/--
A consumer that was handed over publishes after a start has, and is ended
before it comes to the next change.
-/
def lateConsumer : List Occurrence :=
  [.acts .listen, .acts (.enrol ⟨1⟩ (.ok 0)), .acts (.startReads 0 .down),
    .acts (.startPublishes 0), .changes ⟨⟨1⟩, some .up⟩ .up,
    .acts (.receive 0), .acts (.check 0), .acts .withdrawAll,
    .changes ⟨⟨1⟩, some .down⟩ .down, .acts (.enrol ⟨1⟩ (.ok 1)),
    .acts (.startReads 1 .down), .acts (.startPublishes 1),
    .acts (.publish 0), .acts (.abort 0)]

/-- The last event can be stale in each of three ways. -/
theorem last_reports_stale :
    EndsStale overtakenStart ⟨1⟩ ∧ EndsStale neglectfulStart ⟨1⟩ ∧
      EndsStale lateConsumer ⟨1⟩ := by
  have run := fun occurrences =>
    (TruthfulRun.created allDown).experience occurrences
  simp only [List.nil_append] at run
  refine ⟨⟨run _, by decide, by decide, rfl, by decide, ?_⟩,
    ⟨run _, by decide, by decide, rfl, by decide, ?_⟩,
    ⟨run _, by decide, by decide, rfl, by decide, ?_⟩⟩
  · exact not_since_of_put
      ((experience allDown {} overtakenStart).take 7)
      ((experience allDown {} overtakenStart).drop 8)
      (fun silent => silent.2 .disconnected rfl) (by decide)
  · exact not_since_of_put
      ((experience allDown {} neglectfulStart).take 3)
      ((experience allDown {} neglectfulStart).drop 4)
      (fun silent => silent.2 .disconnected rfl) (by decide)
  · exact not_since_of_put
      ((experience allDown {} lateConsumer).take 12)
      ((experience allDown {} lateConsumer).drop 13)
      (fun silent => silent.2 .connected rfl) (by decide)

end Watch

end Tunnel
