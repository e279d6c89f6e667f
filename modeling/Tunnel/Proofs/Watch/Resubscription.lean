import Mathlib.Data.List.Induction
import Tunnel.Proofs.Watch.Refresh

/-!
# After a new subscription

Changes that happen while no subscription is alive are told to nobody.  A
consumer that subscribes again makes up for them by reading everything that is
watched.  A start that puts a new consumer in the place of a dead one reads its
own interface, and the new consumer owes nothing.
-/

namespace Tunnel

namespace Watch

/-! ## Runs -/

namespace Run

variable {earlier later : List Transition} {first : Transition}
  {observer : Observer}

/-- A run ends with a step of a shorter one. -/
theorem of_concat {history : List Transition} {last : Transition}
    (run : Run (history ++ [last]) observer) :
    Run history last.before ∧ last.before.step last.action = some observer ∧
      last.after = observer := by
  generalize whole : history ++ [last] = longer at run
  cases run with
  | created => simp at whole
  | step run happens =>
      obtain ⟨same, equal⟩ := List.append_inj' whole rfl
      cases same
      cases equal
      exact ⟨run, happens, rfl⟩

/-- In a run a transition is what its action does. -/
theorem happens (run : Run (earlier ++ first :: later) observer) :
    first.before.step first.action = some first.after := by
  induction later using List.reverseRecOn generalizing observer with
  | nil =>
      obtain ⟨-, happens, same⟩ := run.of_concat
      rw [same]
      exact happens
  | append_singleton between last ih =>
      rw [← List.cons_append, ← List.append_assoc] at run
      exact ih run.of_concat.1

/--
What holds after a transition and is kept by the steps that are allowed holds
after every number of these.
-/
theorem after {Allowed : Transition → Prop}
    (Holds : List Transition → Observer → Prop)
    (run : Run (earlier ++ first :: later) observer)
    (allowed : ∀ transition ∈ later, Allowed transition)
    (starts : Holds [] first.after)
    (keeps : ∀ {between before action after},
      Run (earlier ++ first :: between) before →
      before.step action = some after → Allowed ⟨before, action, after⟩ →
      Holds between before →
        Holds (between ++ [⟨before, action, after⟩]) after) :
    Holds later observer := by
  -- Runs grow at their end, so the steps are taken away from there.
  induction later using List.reverseRecOn generalizing observer with
  | nil =>
      obtain ⟨-, -, rfl⟩ := run.of_concat
      exact starts
  | append_singleton between last ih =>
      rw [List.forall_mem_append, List.forall_mem_singleton] at allowed
      rw [← List.cons_append, ← List.append_assoc] at run
      obtain ⟨shorter, happens, rfl⟩ := run.of_concat
      exact keeps shorter happens allowed.2 (ih shorter allowed.1)

/-- There are never fewer consumers. -/
theorem length_mono {history : List Transition} {action : Action}
    {next : Observer} (run : Run history observer)
    (happens : observer.step action = some next) :
    observer.consumers.length ≤ next.consumers.length := by
  obtain ⟨spawned, range, -⟩ :=
    (effect_of_step happens).accounts run.storesKnown
  have lengths := congrArg List.length range
  rw [List.length_append, List.length_range, List.length_range] at lengths
  exact Nat.le.intro lengths.symm

end Run

section Performed

variable {observer : Observer} {index : Nat} {consumer : Consumer}
  {interface : InterfaceId} {next : List InterfaceId}

theorem step_read
    (found : observer.consumers[index]? = some consumer)
    (stands : consumer.phase = .reading interface next)
    (status : OperStatus) :
    observer.step (.read index status) =
      some (observer.setConsumer index
        { consumer with phase := .publishing interface status next }) := by
  simp [Observer.step, Observer.stepConsumer, found, Consumer.read?, stands]

theorem step_publish {status : OperStatus}
    (found : observer.consumers[index]? = some consumer)
    (stands : consumer.phase = .publishing interface status next) :
    observer.step (.publish index) =
      some ((observer.setConsumer index
        { consumer with phase := Phase.reads next }).publish interface
          status) := by
  simp only [Observer.step, found, stands]

theorem step_gather {order : List InterfaceId}
    (found : observer.consumers[index]? = some consumer)
    (stands : consumer.phase = .gathering)
    (all : order.Perm observer.watched) :
    observer.step (.gather index order) =
      some (observer.setConsumer index
        { consumer with phase := Phase.reads order }) := by
  simp [Observer.step, Observer.stepConsumer, found, Consumer.gather?,
    stands, all]

end Performed

theorem performed_cons {observer next : Observer} {action : Action}
    (happens : observer.step action = some next) (rest : List Action) :
    performed observer (action :: rest) = performed next rest := by
  rw [performed, happens]

/-- The sections by which a consumer reads what is owed, with the answers. -/
def payment (answers : Statuses) (index : Nat) (next : List InterfaceId) :
    List Action :=
  next.flatMap fun interface =>
    [.read index (answers interface), .publish index]

/-- A consumer comes back by sections of its own. -/
theorem performed_payment (answers : Statuses) {index : Nat}
    {next : List InterfaceId} {observer : Observer} {consumer : Consumer}
    (found : observer.consumers[index]? = some consumer)
    (stands : consumer.phase = Phase.reads next) :
    ∃ back, (performed observer (payment answers index next)).consumers[index]?
        = some back ∧ back.phase = .receiving := by
  induction next generalizing observer consumer with
  | nil => exact ⟨consumer, found, stands⟩
  | cons interface next ih =>
      have held := observer.getElem?_setConsumer found
      have published := (observer.setConsumer index _).getElem?_setConsumer
        (held { consumer with
          phase := .publishing interface (answers interface) next })
        { consumer with phase := Phase.reads next }
      rw [← Observer.publish_consumers _ interface (answers interface)]
        at published
      rw [payment, List.flatMap_cons, List.cons_append, List.cons_append,
        performed_cons (step_read found stands (answers interface)),
        performed_cons (step_publish (held _) rfl)]
      exact ih published rfl

namespace Run

variable {earlier later : List Transition} {first : Transition}
  {observer : Observer} {interface : InterfaceId}

/-- A consumer that has a new subscription has not looked what is watched. -/
theorem resumed {index source : Nat}
    (run : Run (earlier ++ first :: later) observer)
    (resumes : first.action = .resubscribe index (.ok source)) :
    ∃ old new, first.before.consumers[index]? = some old ∧
      new.phase = .gathering ∧
      first.after = first.before.setConsumer index new := by
  have happens := run.happens
  rw [resumes] at happens
  obtain ⟨old, new, found, resumed, same⟩ :=
    Observer.stepConsumer_eq_some happens
  obtain ⟨-, rfl⟩ := Consumer.resubscribe?_eq_some resumed
  exact ⟨old, _, found, rfl, same⟩

/-- A consumer that takes changes again has paid what it owed. -/
theorem refreshes_of_resubscribe {index source : Nat} {consumer : Consumer}
    (run : Run (earlier ++ first :: later) observer)
    (kept : ∀ transition ∈ later, ¬ transition.Stops interface)
    (resumes : first.action = .resubscribe index (.ok source))
    (watched : interface ∈ first.before.watched)
    (found : observer.consumers[index]? = some consumer)
    (free : consumer.phase.isFree = true) :
    Refreshes later (.consumer index) interface := by
  obtain ⟨old, new, held, gathering, same⟩ := run.resumed resumes
  have accounts := run.after (fun later observer =>
    interface ∈ observer.watched ∧ index < observer.consumers.length ∧
      ∀ consumer, observer.consumers[index]? = some consumer →
        Account later index interface consumer.phase) kept ?_ ?_
  · exact (accounts.2.2 consumer found).refreshes free
  · have stands := first.before.getElem?_setConsumer held new
    rw [same]
    refine ⟨watched, (List.getElem?_eq_some_iff.1 stands).1, ?_⟩
    intro consumer found
    cases stands.symm.trans found
    rw [gathering]
    exact .owes .gathering
  · rintro between before action after run happens goes ⟨watched, bound, owed⟩
    exact ⟨mem_watched_of_step happens goes watched,
      Nat.lt_of_lt_of_le bound (run.length_mono happens),
      fun consumer => accounts_of_step happens bound watched owed⟩

/-- A start that has ended has published what it has read. -/
theorem refreshes_of_enlists {number : Nat}
    (run : Run (earlier ++ first :: later) observer)
    (kept : ∀ transition ∈ later, ¬ transition.Stops interface)
    (enlists : first.Enlists number interface)
    (ended : ∀ start, (number, start) ∉ observer.starts) :
    Refreshes later (.start number) interface := by
  obtain ⟨pending, watched⟩ :=
    (run.split rfl).2.pending_of_enlists enlists
  have progress := run.after (fun later observer =>
    interface ∈ observer.watched ∧
      Progress later number interface observer) kept
    ⟨watched, .unread pending⟩ ?_
  · cases progress.2 with
    | unread pending => exact absurd pending (ended _)
    | read pending _ => exact absurd pending (ended _)
    | ended refreshes => exact refreshes
  · rintro between before action after run happens goes ⟨watched, progress⟩
    exact ⟨mem_watched_of_step happens goes watched,
      progress_of_step happens run.numbersStarts watched progress⟩

/-- A consumer that owes everything pays it by sections of its own. -/
theorem free_of_resubscribe {index source : Nat}
    (run : Run (earlier ++ first :: later) observer)
    (resumes : first.action = .resubscribe index (.ok source))
    (answers : Statuses) :
    ∃ consumer,
      (performed first.after
        (.gather index first.before.watched ::
          payment answers index first.before.watched)).consumers[index]? =
          some consumer ∧
        consumer.phase.isFree = true := by
  obtain ⟨old, new, held, gathering, same⟩ := run.resumed resumes
  have stands := first.before.getElem?_setConsumer held new
  rw [← same] at stands
  have all : first.before.watched.Perm first.after.watched := by
    rw [same]
    exact List.Perm.refl _
  rw [performed_cons (step_gather stands gathering all)]
  obtain ⟨back, found, receiving⟩ := performed_payment answers
    (first.after.getElem?_setConsumer stands
      { new with phase := Phase.reads first.before.watched }) rfl
  refine ⟨back, found, ?_⟩
  rw [receiving]
  rfl

end Run

/--
When a consumer subscribes again while an interface is watched that is not
stopped afterwards, then it has read the interface and published that before
it takes a change again, which it reaches by sections of its own.  When a
start has inserted an interface that is not stopped afterwards, it has read
the interface and published that once it has ended.
-/
theorem subscription_refreshes {earlier later : List Transition}
    {first : Transition} {observer : Observer} {interface : InterfaceId}
    (run : Run (earlier ++ first :: later) observer)
    (kept : ∀ transition ∈ later, ¬ transition.Stops interface) :
    (∀ index source, first.action = .resubscribe index (.ok source) →
      interface ∈ first.before.watched →
        (∀ consumer, observer.consumers[index]? = some consumer →
          consumer.phase.isFree = true →
            Refreshes later (.consumer index) interface) ∧
        ∀ answers, ∃ consumer,
          (performed first.after
            (.gather index first.before.watched ::
              payment answers index first.before.watched)).consumers[index]? =
              some consumer ∧
            consumer.phase.isFree = true) ∧
    (∀ number, first.Enlists number interface →
      (∀ start, (number, start) ∉ observer.starts) →
        Refreshes later (.start number) interface) := by
  constructor
  · intro index source resumes watched
    exact ⟨fun consumer found free =>
        run.refreshes_of_resubscribe kept resumes watched found free,
      run.free_of_resubscribe resumes⟩
  · intro number enlists ended
    exact run.refreshes_of_enlists kept enlists ended

/-- A consumer subscribes again while two interfaces are watched. -/
def secondSource : List Action :=
  [.listen, .enrol ⟨1⟩ (.ok 0), .startReads 0 .down, .startPublishes 0,
    .enrol ⟨2⟩ (.error .unavailable), .startReads 1 .down, .startPublishes 1,
    .endSource 0, .noticeEnd 0, .leave 0, .resubscribe 0 (.ok 1),
    .gather 0 [⟨2⟩, ⟨1⟩], .read 0 .down, .publish 0, .read 0 .up, .publish 0]

theorem subscription_refreshes_secondSource :
    Refreshes ((perform {} secondSource).drop 11) (.consumer 0) ⟨1⟩ ∧
      Refreshes ((perform {} secondSource).drop 2) (.start 0) ⟨1⟩ := by
  have run := Run.created.perform secondSource
  rw [List.nil_append] at run
  have resumed : perform {} secondSource =
      (perform {} secondSource).take 10 ++
        (perform {} secondSource)[10] ::
          (perform {} secondSource).drop 11 := rfl
  have started : perform {} secondSource =
      (perform {} secondSource).take 1 ++
        (perform {} secondSource)[1] ::
          (perform {} secondSource).drop 2 := rfl
  have calm : ∀ transition ∈ perform {} secondSource,
      transition.action.isStop = false := by
    decide
  have kept : ∀ transition ∈ perform {} secondSource,
      ¬ transition.Stops ⟨1⟩ :=
    fun transition member => not_stops (calm transition member)
  constructor
  · rw [resumed] at run
    refine ((subscription_refreshes run fun transition member =>
      kept transition (List.mem_of_mem_drop member)).1 0 1 rfl ?_).1 _ rfl rfl
    decide
  · rw [started] at run
    refine (subscription_refreshes run fun transition member =>
      kept transition (List.mem_of_mem_drop member)).2 0
      ⟨_, rfl, rfl, rfl⟩ ?_
    exact fun _ => List.not_mem_nil

/-! ## What a start neglects -/

/-- What nobody has read is not refreshed. -/
theorem not_refreshes {history : List Transition} {activity : Activity}
    {interface : InterfaceId}
    (never : ∀ transition ∈ history,
      ∀ reading ∈ transition.action.reading? transition.before,
        reading.2.1 ≠ interface) :
    ¬ Refreshes history activity interface := by
  rintro ⟨earlier, _, later, status, rfl, ⟨found, member, reads⟩, -⟩
  exact never found (List.mem_append_left _ member) _ reads rfl

/-- A start takes the place of a dead consumer and reads its own interface. -/
def neglectfulStart : List Occurrence :=
  [.acts .listen, .acts (.enrol ⟨1⟩ (.ok 0)), .acts (.startReads 0 .down),
    .acts (.startPublishes 0), .acts (.enrol ⟨2⟩ (.error .unavailable)),
    .acts (.startReads 1 .down), .acts (.startPublishes 1),
    .acts (.endSource 0), .acts (.noticeEnd 0), .acts (.leave 0),
    .acts (.resubscribe 0 (.error .unavailable)),
    .changes ⟨⟨1⟩, some .up⟩ .up, .acts (.enrol ⟨2⟩ (.ok 1)),
    .acts (.startReads 2 .down), .acts (.startPublishes 2)]

/--
A start subscribes again in the place of a dead consumer, and when everything
has come to rest nobody has read another interface that was watched all along
and has changed in between.
-/
theorem start_neglects_others :
    ∃ history statuses observer earlier start later,
      TruthfulRun history statuses observer ∧
      history.map Moment.transition = earlier ++ start :: later ∧
      start.action = .enrol ⟨2⟩ (.ok 1) ∧
      start.before.isSubscribed = false ∧ start.after.isSubscribed = true ∧
      ⟨1⟩ ∈ start.before.watched ∧
      (∀ transition ∈ later, ¬ transition.Stops ⟨1⟩) ∧
      observer.IsQuiet ∧
      ∀ activity, ¬ Refreshes later activity ⟨1⟩ := by
  have run := (TruthfulRun.created allDown).experience neglectfulStart
  rw [List.nil_append] at run
  have calm : ∀ transition ∈
      ((experience allDown {} neglectfulStart).map Moment.transition).drop 13,
        transition.action.isStop = false := by
    decide
  refine ⟨_, _, _,
    ((experience allDown {} neglectfulStart).map Moment.transition).take 12,
    ((experience allDown {} neglectfulStart).map Moment.transition)[12],
    ((experience allDown {} neglectfulStart).map Moment.transition).drop 13,
    run, rfl, rfl, rfl, rfl, by decide, ?_, by decide, ?_⟩
  · exact fun transition member => not_stops (calm transition member)
  · exact fun activity => not_refreshes (by decide)

end Watch

end Tunnel
