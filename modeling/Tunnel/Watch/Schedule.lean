import Tunnel.Watch.Machine

/-!
# Running an observer

A schedule runs the activities of an observer against a monitor, one after
another, each as far as it can go.  An activity waits when its inbox is
empty, when the status that it asked for is not there yet, or when its pause
is not over; time passes only when the schedule is told so.  A start runs at
once.  Activities that wait for a status stand in a queue: whenever anything
may go on, each has a turn in that order, and one that still has to wait goes
to the end.  A turn ends after some count of changes even if there are more.
-/

namespace Tunnel.Watch

/-- The pause before a consumer subscribes again, in milliseconds. -/
def resubscribeDelay : Nat := 100

/-- The most changes that a consumer takes in one turn. -/
def turnLimit : Nat := 128

/-- A reading in two halves, of which the second may have to wait. -/
structure Reading (m : Type → Type) where
  ask : InterfaceId → m Unit
  /-- The answer, unless it is not there yet. -/
  poll : InterfaceId → m (Option (Except Error OperStatus))

/-- A reading whose halves are run in another monad. -/
def Reading.lift {m n : Type → Type} (run : {α : Type} → m α → n α)
    (reading : Reading m) : Reading n where
  ask interface := run (reading.ask interface)
  poll interface := run (reading.poll interface)

/-- An activity of an observer. -/
inductive Activity
  | start (number : Nat)
  | consumer (index : Nat)
deriving DecidableEq

/-- An observer with its time. -/
structure Schedule where
  observer : Observer := {}
  clock : Nat := 0
  /-- When the pauses of consumers are over. -/
  alarms : List (Nat × Nat) := []
  /-- The queue of activities that asked for a status. -/
  waiting : List Activity := []

namespace Schedule

variable {m : Type → Type} [Monad m]

/-- The schedule after an action that can happen. -/
def act (schedule : Schedule) (action : Action) : Option Schedule :=
  (schedule.observer.step action).map fun observer =>
    { schedule with observer }

/-- The status for an activity, unless it has to wait for it. -/
def await (reading : Reading m) (schedule : Schedule) (activity : Activity)
    (interface : InterfaceId) : m (Schedule × Option OperStatus) := do
  unless schedule.waiting.contains activity do
    reading.ask interface
  let others := schedule.waiting.erase activity
  match ← reading.poll interface with
  | none =>
      return ({ schedule with waiting := others ++ [activity] }, none)
  | some answer =>
      return ({ schedule with waiting := others }, some (readStatus answer))

/-- The next section of a consumer, unless it has to wait. -/
def advanceConsumer (monitor : Monitor m) (reading : Reading m)
    (schedule : Schedule) (index : Nat) : m (Schedule × Bool) := do
  let settled := (schedule, false)
  let after := fun (next : Option Schedule) =>
    (next.map fun schedule => (schedule, true)).getD settled
  match schedule.observer.consumers[index]? with
  | none => return settled
  | some consumer =>
      match consumer.phase with
      | .receiving =>
          return after <|
            (schedule.act (.receive index)).or
              (schedule.act (.noticeEnd index))
      | .checking _ => return after (schedule.act (.check index))
      | .reading interface _ => do
          match ← schedule.await reading (.consumer index) interface with
          | (schedule, none) => return (schedule, false)
          | (schedule, some status) =>
              return ((schedule.act (.read index status)).getD schedule,
                true)
      | .publishing _ _ _ => return after (schedule.act (.publish index))
      | .leaving =>
          let alarm := (index, schedule.clock + resubscribeDelay)
          return after <|
            (schedule.act (.leave index)).map fun schedule =>
              { schedule with alarms := schedule.alarms ++ [alarm] }
      | .pausing =>
          if schedule.alarms.any fun (other, time) =>
              other = index ∧ time ≤ schedule.clock then do
            let answer ← monitor.subscribe
            return after <|
              (schedule.act (.resubscribe index answer)).map fun schedule =>
                { schedule with
                  alarms := schedule.alarms.filter (·.1 ≠ index) }
          else return settled
      | .gathering =>
          return after <|
            schedule.act (.gather index schedule.observer.watched)
      | .finished => return settled

/-- The next section of a start, unless it has to wait. -/
def advanceStart (reading : Reading m) (schedule : Schedule)
    (number : Nat) : m (Schedule × Bool) := do
  match schedule.observer.start? number with
  | none => return (schedule, false)
  | some { interface, status := none } =>
      match ← schedule.await reading (.start number) interface with
      | (schedule, none) => return (schedule, false)
      | (schedule, some status) =>
          return ((schedule.act (.startReads number status)).getD schedule,
            true)
  | some { status := some _, .. } =>
      return ((schedule.act (.startPublishes number)).getD schedule, true)

/-- The next section of an activity, unless it has to wait. -/
def advance (monitor : Monitor m) (reading : Reading m)
    (schedule : Schedule) : Activity → m (Schedule × Bool)
  | .start number => schedule.advanceStart reading number
  | .consumer index => schedule.advanceConsumer monitor reading index

/-- The next section of an activity takes a change out of an inbox. -/
def isTaking (schedule : Schedule) : Activity → Bool
  | .start _ => false
  | .consumer index =>
      schedule.observer.consumers[index]?.any fun consumer =>
        consumer.phase = .receiving && !consumer.subscription.inbox.isEmpty

/--
Run one activity until it has to wait or has taken some count of changes, or
for some count of sections.
-/
def run (monitor : Monitor m) (reading : Reading m) :
    (sections changes : Nat) → Schedule → Activity → m Schedule
  | 0, _, schedule, _ => return schedule
  | sections + 1, changes, schedule, activity => do
      let taking := schedule.isTaking activity
      if taking && changes = 0 then return schedule
      else
        let (schedule, moved) ← schedule.advance monitor reading activity
        if moved then
          run monitor reading sections
            (if taking then changes - 1 else changes) schedule activity
        else return schedule

/-- A bound on the sections that a consumer's own state asks for. -/
def consumerBound (consumer : Consumer) : Nat :=
  let next := match consumer.phase with
    | .reading _ next | .publishing _ _ next => next.length
    | _ => 0
  4 * consumer.subscription.inbox.length + 2 * next + 2

/-- A bound on the sections that an activity can run without waiting. -/
def sectionBound (schedule : Schedule) : Nat :=
  schedule.observer.consumers.foldr
    (fun consumer bound => consumerBound consumer + bound)
    (2 * schedule.observer.watched.length + 8)

/-- One turn of an activity. -/
def turn (monitor : Monitor m) (reading : Reading m) (schedule : Schedule)
    (activity : Activity) : m Schedule :=
  run monitor reading schedule.sectionBound turnLimit schedule activity

/-- The activities in the order of their turns: first those that wait. -/
def activities (schedule : Schedule) : List Activity :=
  let starts := schedule.observer.starts.map fun (number, _) =>
    Activity.start number
  let consumers :=
    (List.range schedule.observer.consumers.length).map Activity.consumer
  schedule.waiting ++
    (starts ++ consumers).filter (!schedule.waiting.contains ·)

/-- Give each activity a turn, some count of times. -/
def rounds (monitor : Monitor m) (reading : Reading m) :
    (count : Nat) → Schedule → m Schedule
  | 0, schedule => return schedule
  | count + 1, schedule => do
      let schedule ←
        schedule.activities.foldlM (turn monitor reading) schedule
      rounds monitor reading count schedule

/-- A bound on the turns that one consumer needs for its inbox. -/
def roundBound (schedule : Schedule) : Nat :=
  schedule.observer.consumers.foldr
    (fun consumer bound =>
      consumer.subscription.inbox.length / turnLimit + bound)
    1

/-- Run all activities until each has to wait. -/
def settle (monitor : Monitor m) (reading : Reading m)
    (schedule : Schedule) : m Schedule :=
  rounds monitor reading schedule.roundBound schedule

/-- Begin to watch an interface, and go on until the status is waited for. -/
def start (monitor : Monitor m) (reading : Reading m) (schedule : Schedule)
    (interface : InterfaceId) :
    m (Schedule × Observer.Enrolment) := do
  let answer ←
    if schedule.observer.isSubscribed then
      pure (.error .unavailable)
    else monitor.subscribe
  let (_, found) := schedule.observer.enrol interface answer
  let number := schedule.observer.nextStart
  let schedule := (schedule.act (.enrol interface answer)).getD schedule
  return (← schedule.turn monitor reading (.start number), found)

/-- Let the clock run to a time, and stop at each alarm on the way. -/
def passTo (monitor : Monitor m) (reading : Reading m) (time : Nat) :
    (alarms : Nat) → Schedule → m Schedule
  | 0, schedule => return { schedule with clock := time }
  | alarms + 1, schedule => do
      let due : List Nat :=
        schedule.alarms.filterMap fun (_, alarm) =>
          if schedule.clock < alarm ∧ alarm ≤ time then some alarm else none
      match due.min? with
      | none => return { schedule with clock := time }
      | some alarm => do
          let schedule ←
            { schedule with clock := alarm }.settle monitor reading
          passTo monitor reading time alarms schedule

/-- Let some milliseconds pass, after what may go on before. -/
def pass (monitor : Monitor m) (reading : Reading m)
    (milliseconds : Nat) (schedule : Schedule) : m Schedule := do
  let schedule ← schedule.settle monitor reading
  passTo monitor reading (schedule.clock + milliseconds)
    (schedule.alarms.length + 1) schedule

end Schedule

end Tunnel.Watch
