import Tunnel.Watch.Machine

/-!
# Runs of an observer

A run is a history of transitions from the creation of an observer on.  Every
property of runs is proved in two stages: `Effect` says once what each action
can do to the shared state, and what a single effect preserves is carried
along a history by induction on `Run`.

Most actions are sections of one consumer.  They differ in the phases they
lead from and to, but to the rest of the observer they all look alike: the
consumer was at work, it keeps its place, and it is released exactly if it was
(`IsSection`).
-/

namespace Tunnel

/-! ## Fields of the shared state -/

namespace Observer

open Watch

section Fields

variable (observer : Observer)

theorem isWatching_iff {interface : InterfaceId} :
    observer.isWatching interface = true ↔ interface ∈ observer.watched := by
  simp [isWatching]

/-- The consumer at hand is stored and has not finished. -/
theorem isSubscribed_iff :
    observer.isSubscribed = true ↔
      ∃ index consumer, observer.stored = some index ∧
        observer.consumers[index]? = some consumer ∧
        consumer.isRunning = true := by
  unfold isSubscribed Consumer.isRunning
  cases observer.stored with
  | none => simp
  | some index => simp [Option.any_eq_true]

@[simp]
theorem insert_stored (interface : InterfaceId) :
    (observer.insert interface).stored = observer.stored := by
  unfold insert
  split <;> rfl

@[simp]
theorem insert_consumers (interface : InterfaceId) :
    (observer.insert interface).consumers = observer.consumers := by
  unfold insert
  split <;> rfl

@[simp]
theorem insert_outbox (interface : InterfaceId) :
    (observer.insert interface).outbox = observer.outbox := by
  unfold insert
  split <;> rfl

@[simp]
theorem insert_starts (interface : InterfaceId) :
    (observer.insert interface).starts = observer.starts := by
  unfold insert
  split <;> rfl

@[simp]
theorem insert_nextStart (interface : InterfaceId) :
    (observer.insert interface).nextStart = observer.nextStart := by
  unfold insert
  split <;> rfl

theorem mem_insert {interface other : InterfaceId} :
    other ∈ (observer.insert interface).watched ↔
      other ∈ observer.watched ∨ other = interface := by
  unfold insert
  split
  · next watching =>
      have member := observer.isWatching_iff.1 watching
      constructor
      · exact Or.inl
      · rintro (old | rfl)
        · exact old
        · exact member
  · simp

theorem insert_nodup {interface : InterfaceId}
    (once : observer.watched.Nodup) :
    (observer.insert interface).watched.Nodup := by
  unfold insert
  split
  · exact once
  · next absent =>
      rw [isWatching_iff] at absent
      refine List.nodup_append.2 ⟨once, by simp, ?_⟩
      intro other member added inAdded equal
      rw [equal, List.mem_singleton.1 inAdded] at member
      exact absent member

@[simp]
theorem release_watched : observer.release.watched = observer.watched := by
  unfold release
  split <;> rfl

theorem withdraw_watched (interface : InterfaceId) :
    (observer.withdraw interface).watched =
      observer.watched.erase interface := by
  unfold withdraw
  split
  · dsimp only
    split
    · exact release_watched _
    · rfl
  · next unwatched =>
      rw [isWatching_iff] at unwatched
      exact (List.erase_of_not_mem unwatched).symm

@[simp]
theorem release_outbox : observer.release.outbox = observer.outbox := by
  unfold release
  split <;> rfl

@[simp]
theorem release_starts : observer.release.starts = observer.starts := by
  unfold release
  split <;> rfl

@[simp]
theorem release_stored : observer.release.stored = none := by
  unfold release
  split
  · next absent => exact absent
  · rfl

/-- Whether it is heard or not, an event concerns the sink only. -/
theorem emit_eq (event : StatusEvent) :
    observer.emit event =
      { observer with
        sink := (observer.emit event).sink
        outbox := (observer.emit event).outbox } := by
  unfold emit
  split <;> rfl

theorem publish_eq (interface : InterfaceId) (status : OperStatus) :
    observer.publish interface status =
      { observer with
        sink := (observer.publish interface status).sink
        outbox := (observer.publish interface status).outbox } := by
  unfold publish
  split
  · exact observer.emit_eq _
  · rfl

@[simp]
theorem publish_watched (interface : InterfaceId) (status : OperStatus) :
    (observer.publish interface status).watched = observer.watched := by
  rw [publish_eq]

@[simp]
theorem publish_stored (interface : InterfaceId) (status : OperStatus) :
    (observer.publish interface status).stored = observer.stored := by
  rw [publish_eq]

@[simp]
theorem publish_consumers (interface : InterfaceId) (status : OperStatus) :
    (observer.publish interface status).consumers = observer.consumers := by
  rw [publish_eq]

@[simp]
theorem publish_starts (interface : InterfaceId) (status : OperStatus) :
    (observer.publish interface status).starts = observer.starts := by
  rw [publish_eq]

/-! ### What a start finds -/

variable {observer} {interface : InterfaceId} {answer : Except Error Nat}

theorem enrol_settled (subscribed : observer.isSubscribed = true)
    (member : interface ∈ observer.watched) :
    observer.enrol interface answer = (observer, .settled) := by
  have watching := observer.isWatching_iff.2 member
  unfold enrol
  rw [if_pos subscribed, if_pos watching]

theorem enrol_joined (subscribed : observer.isSubscribed = true)
    (absent : interface ∉ observer.watched) :
    observer.enrol interface answer =
      (observer.insert interface, .enrolled) := by
  have unwatched := mt observer.isWatching_iff.1 absent
  unfold enrol
  rw [if_pos subscribed, if_neg unwatched]

theorem enrol_refused (unsubscribed : observer.isSubscribed = false)
    (error : Error) :
    observer.enrol interface (.error error) = (observer, .refused error) := by
  rw [enrol, if_neg (ne_true_of_eq_false unsubscribed)]

theorem enrol_spawned (unsubscribed : observer.isSubscribed = false)
    (source : Nat) :
    observer.enrol interface (.ok source) =
      ((observer.spawn source).insert interface, .enrolled) := by
  rw [enrol, if_neg (ne_true_of_eq_false unsubscribed)]

end Fields

/-- A start that has inserted its interface, with a number of its own. -/
def enlist (observer : Observer) (interface : InterfaceId) : Observer :=
  { observer.insert interface with
    starts := observer.starts ++ [(observer.nextStart, { interface })]
    nextStart := observer.nextStart + 1 }

theorem enlist_watched_ne_nil (observer : Observer)
    {interface : InterfaceId} : (observer.enlist interface).watched ≠ [] :=
  List.ne_nil_of_mem (observer.mem_insert.2 (Or.inr rfl))

theorem enlist_stored (observer : Observer) (interface : InterfaceId) :
    (observer.enlist interface).stored = observer.stored :=
  observer.insert_stored interface

theorem enlist_consumers (observer : Observer) (interface : InterfaceId) :
    (observer.enlist interface).consumers = observer.consumers :=
  observer.insert_consumers interface

section Enrol

variable {observer : Observer} {interface : InterfaceId}
  {answer : Except Error Nat}

theorem step_enrol_settled (subscribed : observer.isSubscribed = true)
    (member : interface ∈ observer.watched) :
    observer.step (.enrol interface answer) = some observer := by
  simp only [step]
  rw [enrol_settled subscribed member]

theorem step_enrol_joined (subscribed : observer.isSubscribed = true)
    (absent : interface ∉ observer.watched) :
    observer.step (.enrol interface answer) =
      some (observer.enlist interface) := by
  simp only [step]
  rw [enrol_joined subscribed absent]
  dsimp only
  rw [insert_starts, insert_nextStart]
  rfl

theorem step_enrol_refused (unsubscribed : observer.isSubscribed = false)
    (error : Error) :
    observer.step (.enrol interface (.error error)) = some observer := by
  simp only [step]
  rw [enrol_refused unsubscribed]

theorem step_enrol_spawned (unsubscribed : observer.isSubscribed = false)
    (source : Nat) :
    observer.step (.enrol interface (.ok source)) =
      some ((observer.spawn source).enlist interface) := by
  simp only [step]
  rw [enrol_spawned unsubscribed]
  dsimp only
  rw [insert_starts, insert_nextStart]
  rfl

end Enrol

end Observer

namespace Watch

/-! ## Sections of a consumer -/

/--
What all sections of a consumer have in common: they need a consumer at work,
and they leave it to those who may end it.
-/
def IsSection (section? : Consumer → Option Consumer) : Prop :=
  ∀ before after, section? before = some after →
    before.isRunning = true ∧ after.released = before.released

section Sections

theorem isRunning_of_phase {consumer : Consumer} {phase : Phase}
    (stands : consumer.phase = phase) (busy : phase ≠ .finished) :
    consumer.isRunning = true := by
  rw [← stands] at busy
  exact decide_eq_true busy

theorem isSection_receive : IsSection Consumer.receive? := by
  intro before after taken
  unfold Consumer.receive? at taken
  split at taken
  · next receiving _ =>
      cases taken
      exact ⟨isRunning_of_phase receiving (by decide), rfl⟩
  · cases taken

theorem isSection_noticeEnd : IsSection Consumer.noticeEnd? := by
  intro before after noticed
  unfold Consumer.noticeEnd? at noticed
  split at noticed
  · next receiving _ =>
      split at noticed
      · cases noticed
        exact ⟨isRunning_of_phase receiving (by decide), rfl⟩
      · cases noticed
  · cases noticed

theorem isSection_check (isWatched : InterfaceId → Bool) :
    IsSection (Consumer.check? isWatched) := by
  intro before after checked
  unfold Consumer.check? at checked
  split at checked
  · next checking =>
      cases checked
      exact ⟨isRunning_of_phase checking Phase.noConfusion, rfl⟩
  · cases checked

theorem isSection_read (status : OperStatus) :
    IsSection (Consumer.read? status) := by
  intro before after read
  unfold Consumer.read? at read
  split at read
  · next reading =>
      cases read
      exact ⟨isRunning_of_phase reading Phase.noConfusion, rfl⟩
  · cases read

theorem isSection_leave (anyWatched : Bool) :
    IsSection (Consumer.leave? anyWatched) := by
  intro before after left
  unfold Consumer.leave? at left
  split at left
  · next leaving =>
      cases left
      exact ⟨isRunning_of_phase leaving (by decide), rfl⟩
  · cases left

theorem isSection_resubscribe (answer : Except Error Nat) :
    IsSection (Consumer.resubscribe? answer) := by
  intro before after resumed
  unfold Consumer.resubscribe? at resumed
  split at resumed
  · next pausing =>
      have busy := isRunning_of_phase pausing (by decide)
      cases answer with
      | ok source =>
          cases resumed
          exact ⟨busy, rfl⟩
      | error error =>
          cases resumed
          exact ⟨busy, rfl⟩
  · cases resumed

theorem isSection_gather (order : List InterfaceId) :
    IsSection (Consumer.gather? order) := by
  intro before after gathered
  unfold Consumer.gather? at gathered
  split at gathered
  · next gathering =>
      cases gathered
      exact ⟨isRunning_of_phase gathering (by decide), rfl⟩
  · cases gathered

/-- What can happen to a consumer at work only, and does not release it. -/
theorem isSection_ite (condition : Consumer → Bool)
    (change : Consumer → Consumer)
    (busy : ∀ consumer, condition consumer = true →
      consumer.isRunning = true)
    (kept : ∀ consumer, (change consumer).released = consumer.released) :
    IsSection fun consumer =>
      if condition consumer then some (change consumer) else none := by
  intro before after changed
  simp only [Option.ite_none_right_eq_some] at changed
  obtain ⟨possible, same⟩ := changed
  cases same
  exact ⟨busy before possible, kept before⟩

theorem Consumer.deliver_released (change : InterfaceChange)
    (consumer : Consumer) :
    (consumer.deliver change).released = consumer.released := by
  unfold Consumer.deliver
  split <;> rfl

theorem Consumer.deliver_phase (change : InterfaceChange)
    (consumer : Consumer) :
    (consumer.deliver change).phase = consumer.phase := by
  unfold Consumer.deliver
  split <;> rfl

theorem isRunning_of_isReachable (consumer : Consumer)
    (reachable : consumer.isReachable = true) :
    consumer.isRunning = true :=
  (Bool.and_eq_true_iff.1 reachable).1

end Sections

/-! ## What a step can do -/

/-- The consumer whose section an action is, unless it publishes. -/
def Action.consumer? : Action → Option Nat
  | .abort index | .die index | .deliver index _ | .endSource index
  | .receive index | .noticeEnd index | .check index | .read index _
  | .leave index | .resubscribe index _ | .gather index _ => some index
  | _ => none

/-- What each action can do to an observer, and when. -/
inductive Effect (observer : Observer) : Action → Observer → Prop
  /-- A start finds that there is nothing to do. -/
  | settled {interface answer}
      (subscribed : observer.isSubscribed = true)
      (member : interface ∈ observer.watched) :
      Effect observer (.enrol interface answer) observer
  /-- A start needs a subscription and cannot have one. -/
  | refused {interface error}
      (unsubscribed : observer.isSubscribed = false) :
      Effect observer (.enrol interface (.error error)) observer
  /-- A start joins the subscription that there is. -/
  | joined {interface answer}
      (subscribed : observer.isSubscribed = true)
      (absent : interface ∉ observer.watched) :
      Effect observer (.enrol interface answer) (observer.enlist interface)
  /-- A start makes a subscription and a consumer for it. -/
  | spawned {interface source}
      (unsubscribed : observer.isSubscribed = false) :
      Effect observer (.enrol interface (.ok source))
        ((observer.spawn source).enlist interface)
  | startReads {number interface status}
      (found : observer.start? number =
        some { interface, status := none }) :
      Effect observer (.startReads number status)
        { observer with
          starts :=
            observer.starts.map fun (other, start) =>
              if other = number then
                (other, { interface, status := some status })
              else (other, start) }
  | startPublishes {number interface status}
      (found : observer.start? number =
        some { interface, status := some status }) :
      Effect observer (.startPublishes number)
        (Observer.publish
          { observer with
            starts := observer.starts.filter (·.1 ≠ number) }
          interface status)
  /-- A stop finds that there is nothing to do. -/
  | unwatched {interface} (absent : interface ∉ observer.watched) :
      Effect observer (.withdraw interface) observer
  /-- A stop leaves other interfaces watched. -/
  | withdrawn {interface} (member : interface ∈ observer.watched)
      (others : observer.watched.erase interface ≠ []) :
      Effect observer (.withdraw interface)
        { observer with watched := observer.watched.erase interface }
  /-- A stop takes the last interface out. -/
  | emptied {interface} (member : interface ∈ observer.watched) :
      Effect observer (.withdraw interface) observer.withdrawAll
  | withdrawAll : Effect observer .withdrawAll observer.withdrawAll
  | notify {change} :
      Effect observer (.notify change)
        { observer with
          consumers := observer.consumers.map (Consumer.deliver change) }
  /-- One consumer does a section of its own. -/
  | progress {action index before after}
      (own : action.consumer? = some index)
      (found : observer.consumers[index]? = some before)
      (running : before.isRunning = true)
      (kept : after.released = before.released) :
      Effect observer action (observer.setConsumer index after)
  | publish {index consumer interface status next}
      (found : observer.consumers[index]? = some consumer)
      (stands : consumer.phase = .publishing interface status next) :
      Effect observer (.publish index)
        ((observer.setConsumer index
            { consumer with phase := Phase.reads next }).publish
          interface status)
  | listen : Effect observer .listen observer.listen
  | cancelListen : Effect observer .cancelListen observer.cancelListen
  /-- The listener goes away, if there is one. -/
  | abandon {sink} : Effect observer .abandon { observer with sink }

section Step

variable {observer next : Observer} {action : Action}

theorem effect_of_section {index : Nat}
    {section? : Consumer → Option Consumer} (isSection : IsSection section?)
    (own : action.consumer? = some index)
    (happens : observer.stepConsumer index section? = some next) :
    Effect observer action next := by
  obtain ⟨before, found, inner⟩ := Option.bind_eq_some_iff.1 happens
  obtain ⟨after, changed, same⟩ := Option.bind_eq_some_iff.1 inner
  cases same
  obtain ⟨running, kept⟩ := isSection before after changed
  exact .progress own found running kept

theorem effect_of_enrol {interface : InterfaceId}
    {answer : Except Error Nat}
    (happens : observer.step (.enrol interface answer) = some next) :
    Effect observer (.enrol interface answer) next := by
  cases subscribed : observer.isSubscribed with
  | true =>
      by_cases member : interface ∈ observer.watched
      · rw [Observer.step_enrol_settled subscribed member] at happens
        cases happens
        exact .settled subscribed member
      · rw [Observer.step_enrol_joined subscribed member] at happens
        cases happens
        exact .joined subscribed member
  | false =>
      cases answer with
      | error error =>
          rw [Observer.step_enrol_refused subscribed] at happens
          cases happens
          exact .refused subscribed
      | ok source =>
          rw [Observer.step_enrol_spawned subscribed] at happens
          cases happens
          exact .spawned subscribed

theorem effect_of_withdraw (observer : Observer)
    (interface : InterfaceId) :
    Effect observer (.withdraw interface) (observer.withdraw interface) := by
  unfold Observer.withdraw
  split
  · next watching =>
      have member := observer.isWatching_iff.1 watching
      dsimp only
      split
      · next empty =>
          rw [empty]
          exact .emptied member
      · next others => exact .withdrawn member others
  · next unwatched =>
      rw [Observer.isWatching_iff] at unwatched
      exact .unwatched unwatched

theorem effect_of_abandon (observer : Observer) :
    Effect observer .abandon observer.abandon := by
  unfold Observer.abandon
  split
  · exact .abandon
  · exact .abandon

/-- Every step has one of the listed effects. -/
theorem effect_of_step (happens : observer.step action = some next) :
    Effect observer action next := by
  cases action with
  | enrol interface answer => exact effect_of_enrol happens
  | startReads number status =>
      simp only [Observer.step] at happens
      split at happens
      · next found =>
          cases happens
          exact .startReads found
      · cases happens
  | startPublishes number =>
      simp only [Observer.step] at happens
      split at happens
      · next found =>
          cases happens
          exact .startPublishes found
      · cases happens
  | withdraw interface =>
      cases happens
      exact effect_of_withdraw observer interface
  | withdrawAll =>
      cases happens
      exact .withdrawAll
  | abort index =>
      exact effect_of_section
        (isSection_ite
          (fun consumer => consumer.released && consumer.isRunning)
          (fun consumer => { consumer with phase := .finished })
          (fun _ both => (Bool.and_eq_true_iff.1 both).2) fun _ => rfl)
        rfl happens
  | die index =>
      exact effect_of_section
        (isSection_ite Consumer.isRunning
          (fun consumer => { consumer with phase := .finished })
          (fun _ => id) fun _ => rfl)
        rfl happens
  | notify change =>
      cases happens
      exact .notify
  | deliver index change =>
      exact effect_of_section
        (isSection_ite Consumer.isReachable (Consumer.deliver change)
          isRunning_of_isReachable (Consumer.deliver_released change))
        rfl happens
  | endSource index =>
      exact effect_of_section
        (isSection_ite Consumer.isReachable Consumer.endSource
          isRunning_of_isReachable fun _ => rfl)
        rfl happens
  | receive index => exact effect_of_section isSection_receive rfl happens
  | noticeEnd index =>
      exact effect_of_section isSection_noticeEnd rfl happens
  | check index => exact effect_of_section (isSection_check _) rfl happens
  | read index status =>
      exact effect_of_section (isSection_read _) rfl happens
  | publish index =>
      simp only [Observer.step] at happens
      split at happens
      · next found =>
          split at happens
          · next stands =>
              cases happens
              exact .publish found stands
          · cases happens
      · cases happens
  | leave index => exact effect_of_section (isSection_leave _) rfl happens
  | resubscribe index answer =>
      exact effect_of_section (isSection_resubscribe _) rfl happens
  | gather index order =>
      simp only [Observer.step, Option.ite_none_right_eq_some] at happens
      exact effect_of_section (isSection_gather order) rfl happens.2
  | listen =>
      cases happens
      exact .listen
  | cancelListen =>
      cases happens
      exact .cancelListen
  | abandon =>
      cases happens
      exact effect_of_abandon observer

end Step

/-! ## Histories -/

/-- An action, with the observer before and after it. -/
structure Transition where
  before : Observer
  action : Action
  after : Observer

/-- What has happened to an observer since its creation, and how it stands. -/
inductive Run : List Transition → Observer → Prop
  | created : Run [] {}
  | step {history observer action next} (run : Run history observer)
      (happens : observer.step action = some next) :
      Run (history ++ [⟨observer, action, next⟩]) next

namespace Run

variable {history : List Transition} {observer : Observer}

/-- What holds at first and is preserved by every effect holds in a run. -/
theorem invariant {Invariant : Observer → Prop} (created : Invariant {})
    (preserved : ∀ {before action after}, Invariant before →
      Effect before action after → Invariant after)
    (run : Run history observer) : Invariant observer := by
  induction run with
  | created => exact created
  | step _ happens ih => exact preserved ih (effect_of_step happens)

/-- Up to a transition a run is a run, and there the transition happens. -/
theorem split {earlier later : List Transition} {transition : Transition}
    (run : Run history observer)
    (cut : history = earlier ++ transition :: later) :
    Run earlier transition.before ∧
      Effect transition.before transition.action transition.after := by
  induction run generalizing later with
  | created => simp at cut
  | step run happens ih =>
      rcases List.eq_nil_or_concat later with rfl | ⟨front, last, rfl⟩
      · obtain ⟨same, equal⟩ := List.append_inj' cut rfl
        cases same
        cases equal
        exact ⟨run, effect_of_step happens⟩
      · rw [List.concat_eq_append, ← List.cons_append,
          ← List.append_assoc] at cut
        exact ih (List.append_inj' cut rfl).1

theorem effect_of_mem {transition : Transition} (run : Run history observer)
    (member : transition ∈ history) :
    Effect transition.before transition.action transition.after := by
  obtain ⟨earlier, later, cut⟩ := List.append_of_mem member
  exact (run.split cut).2

end Run

/-- The transitions of actions in a row, up to one that cannot happen. -/
def perform : Observer → List Action → List Transition
  | _, [] => []
  | observer, action :: rest =>
      match observer.step action with
      | some next => ⟨observer, action, next⟩ :: perform next rest
      | none => []

/-- The observer after actions in a row, up to one that cannot happen. -/
def performed : Observer → List Action → Observer
  | observer, [] => observer
  | observer, action :: rest =>
      match observer.step action with
      | some next => performed next rest
      | none => observer

/-- Actions that are performed in a row continue a run. -/
theorem Run.perform {history : List Transition} {observer : Observer}
    (run : Run history observer) (actions : List Action) :
    Run (history ++ Watch.perform observer actions)
      (performed observer actions) := by
  induction actions generalizing history observer with
  | nil =>
      rw [Watch.perform, List.append_nil]
      exact run
  | cons action rest ih =>
      rw [Watch.perform, performed]
      split
      · next next happens =>
          have longer := ih (run.step happens)
          rw [List.append_assoc] at longer
          exact longer
      · rw [List.append_nil]
        exact run

end Watch

end Tunnel
