import Tunnel.Watch.Basic

/-!
# The observer as a transition system

`Action` lists the atomic sections of all activities of an observer, with
what the outside answers as a parameter, and `Observer.step` says what each
does to the shared state, or that it cannot happen.  A run of an observer is
any sequence of actions, each of which can happen where it stands; so every
interleaving of calls, consumers and notifications is a run.
-/

namespace Tunnel

namespace Watch

/-- One atomic section of an activity. -/
inductive Action
  /-- A start looks at the set, subscribes if needed, and inserts. -/
  | enrol (interface : InterfaceId) (answer : Except Error Nat)
  /-- A start reads the status. -/
  | startReads (start : Nat) (status : OperStatus)
  /-- A start publishes the status and ends. -/
  | startPublishes (start : Nat)
  /-- A stop takes one interface out. -/
  | withdraw (interface : InterfaceId)
  /-- A stop takes all interfaces out. -/
  | withdrawAll
  /-- A consumer that was released ends. -/
  | abort (consumer : Nat)
  /-- A consumer dies of a failure of its own. -/
  | die (consumer : Nat)
  /-- The monitor sends a change to every subscription. -/
  | notify (change : InterfaceChange)
  /-- A change arrives at one subscription. -/
  | deliver (consumer : Nat) (change : InterfaceChange)
  /-- The monitor closes one subscription. -/
  | endSource (consumer : Nat)
  /-- A consumer takes a change out of its inbox. -/
  | receive (consumer : Nat)
  /-- A consumer finds that its source has ended. -/
  | noticeEnd (consumer : Nat)
  /-- A consumer looks whether the interface of its change is watched. -/
  | check (consumer : Nat)
  /-- A consumer reads a status. -/
  | read (consumer : Nat) (status : OperStatus)
  /-- A consumer publishes a status. -/
  | publish (consumer : Nat)
  /-- A consumer without a source looks whether anything is watched. -/
  | leave (consumer : Nat)
  /-- A consumer subscribes again after its pause. -/
  | resubscribe (consumer : Nat) (answer : Except Error Nat)
  /-- A consumer looks what is to be read again, in whatever order. -/
  | gather (consumer : Nat) (order : List InterfaceId)
  | listen
  | cancelListen
  | abandon

/-- Where a consumer stands that is to read some statuses next. -/
def Phase.reads : List InterfaceId → Phase
  | [] => .receiving
  | interface :: next => .reading interface next

namespace Consumer

/-- A consumer that still uses its subscription. -/
def isRunning (consumer : Consumer) : Bool :=
  consumer.phase ≠ .finished

/-- A consumer that a change can still reach. -/
def isReachable (consumer : Consumer) : Bool :=
  consumer.isRunning && !consumer.subscription.ended

/-- A change arrives, unless it can no longer. -/
def deliver (change : InterfaceChange) (consumer : Consumer) : Consumer :=
  if consumer.isReachable then
    { consumer with
      subscription :=
        { consumer.subscription with
          inbox := consumer.subscription.inbox ++ [change] } }
  else consumer

/-- The source ends; what has arrived can still be taken. -/
def endSource (consumer : Consumer) : Consumer :=
  { consumer with
    subscription := { consumer.subscription with ended := true } }

/-- The oldest change is taken. -/
def receive? (consumer : Consumer) : Option Consumer :=
  match consumer.phase, consumer.subscription.inbox with
  | .receiving, change :: inbox =>
      some { consumer with
        subscription := { consumer.subscription with inbox }
        phase := .checking change }
  | _, _ => none

/-- Nothing is left to take and the source has ended. -/
def noticeEnd? (consumer : Consumer) : Option Consumer :=
  match consumer.phase, consumer.subscription.inbox with
  | .receiving, [] =>
      if consumer.subscription.ended then
        some { consumer with phase := .leaving }
      else none
  | _, _ => none

/-- The change at hand is dropped or followed up. -/
def check? (isWatched : InterfaceId → Bool) (consumer : Consumer) :
    Option Consumer :=
  match consumer.phase with
  | .checking change =>
      some { consumer with
        phase :=
          if isWatched change.interface then
            match change.status with
            | some status => .publishing change.interface status []
            | none => .reading change.interface []
          else .receiving }
  | _ => none

/-- The status that was waited for is there. -/
def read? (status : OperStatus) (consumer : Consumer) : Option Consumer :=
  match consumer.phase with
  | .reading interface next =>
      some { consumer with phase := .publishing interface status next }
  | _ => none

/-- Go on watching, or end when nothing is watched. -/
def leave? (anyWatched : Bool) (consumer : Consumer) : Option Consumer :=
  match consumer.phase with
  | .leaving =>
      some { consumer with
        phase := if anyWatched then .pausing else .finished }
  | _ => none

/-- Take up a new subscription, or end when there is none to be had. -/
def resubscribe? (answer : Except Error Nat) (consumer : Consumer) :
    Option Consumer :=
  match consumer.phase with
  | .pausing =>
      match answer with
      | .ok source =>
          some { consumer with
            subscription := { source }
            phase := .gathering }
      | .error _ => some { consumer with phase := .finished }
  | _ => none

/-- Read the status of everything that is watched, in some order. -/
def gather? (order : List InterfaceId) (consumer : Consumer) :
    Option Consumer :=
  match consumer.phase with
  | .gathering => some { consumer with phase := Phase.reads order }
  | _ => none

end Consumer

end Watch

namespace Observer

open Watch

/-- A section of one consumer that leaves the rest of the state alone. -/
def stepConsumer (observer : Observer) (index : Nat)
    (section? : Consumer → Option Consumer) : Option Observer := do
  let consumer ← observer.consumers[index]?
  let consumer ← section? consumer
  return observer.setConsumer index consumer

/-- A start with some number. -/
def start? (observer : Observer) (start : Nat) : Option Start :=
  (observer.starts.find? (·.1 = start)).map (·.2)

/-- What an action does, or nothing when it cannot happen. -/
def step (observer : Observer) : Action → Option Observer
  | .enrol interface answer =>
      match observer.enrol interface answer with
      | (observer, .enrolled) =>
          some { observer with
            starts := observer.starts ++ [(observer.nextStart, { interface })]
            nextStart := observer.nextStart + 1 }
      | (observer, _) => some observer
  | .startReads start status =>
      match observer.start? start with
      | some { interface, status := none } =>
          some { observer with
            starts :=
              observer.starts.map fun (number, other) =>
                if number = start then
                  (number, { interface, status := some status })
                else (number, other) }
      | _ => none
  | .startPublishes start =>
      match observer.start? start with
      | some { interface, status := some status } =>
          some <| Observer.publish
            { observer with
              starts := observer.starts.filter (·.1 ≠ start) }
            interface status
      | _ => none
  | .withdraw interface => some (observer.withdraw interface)
  | .withdrawAll => some observer.withdrawAll
  | .abort index =>
      observer.stepConsumer index fun consumer =>
        if consumer.released && consumer.isRunning then
          some { consumer with phase := .finished }
        else none
  | .die index =>
      observer.stepConsumer index fun consumer =>
        if consumer.isRunning then some { consumer with phase := .finished }
        else none
  | .notify change =>
      some { observer with
        consumers := observer.consumers.map (Consumer.deliver change) }
  | .deliver index change =>
      observer.stepConsumer index fun consumer =>
        if consumer.isReachable then some (consumer.deliver change) else none
  | .endSource index =>
      observer.stepConsumer index fun consumer =>
        if consumer.isReachable then some consumer.endSource else none
  | .receive index => observer.stepConsumer index Consumer.receive?
  | .noticeEnd index => observer.stepConsumer index Consumer.noticeEnd?
  | .check index =>
      observer.stepConsumer index (Consumer.check? observer.isWatching)
  | .read index status =>
      observer.stepConsumer index (Consumer.read? status)
  | .publish index =>
      match observer.consumers[index]? with
      | some consumer =>
          match consumer.phase with
          | .publishing interface status next =>
              some <|
                (observer.setConsumer index
                  { consumer with
                    phase := Phase.reads next }).publish
                  interface status
          | _ => none
      | none => none
  | .leave index =>
      observer.stepConsumer index
        (Consumer.leave? (!observer.watched.isEmpty))
  | .resubscribe index answer =>
      observer.stepConsumer index (Consumer.resubscribe? answer)
  | .gather index order =>
      if order.Perm observer.watched then
        observer.stepConsumer index (Consumer.gather? order)
      else none
  | .listen => some observer.listen
  | .cancelListen => some observer.cancelListen
  | .abandon => some observer.abandon

end Observer

end Tunnel
