import Tunnel.Status

/-!
# Observers

An observer watches a set of interfaces.  While the set is not empty, one
consumer works on a subscription to the changes of all interfaces, and the
status of a watched interface is put on the sink whenever it may have
changed.

The state below is shared by several activities: calls that start or stop
watching, and consumers.  Each activity is cut into atomic sections, and the
functions of this module are the sections that work on the shared state.
Between two sections of one activity any section of another may run, so that
a status may be read while an interface is watched and be ready when it no
longer is; therefore `publish` looks at the watched set itself.
-/

namespace Tunnel

/-- The news that an interface may have changed. -/
structure InterfaceChange where
  interface : InterfaceId
  /-- The new status, when the news carries it. -/
  status : Option OperStatus
deriving DecidableEq

/-- The operations of the system's interface monitor. -/
structure Monitor (m : Type → Type) where
  /-- Ask for the changes of all interfaces; the answer names the source. -/
  subscribe : m (Except Error Nat)
  /-- Read the status of one interface. -/
  status : InterfaceId → m (Except Error OperStatus)

/-- A monitor whose operations are run in another monad. -/
def Monitor.lift {m n : Type → Type} (run : {α : Type} → m α → n α)
    (monitor : Monitor m) : Monitor n where
  subscribe := run monitor.subscribe
  status interface := run (monitor.status interface)

/-- A status that was read, where a failed reading is an unknown status. -/
def readStatus : Except Error OperStatus → OperStatus
  | .ok status => status
  | .error _ => .unknown

namespace Watch

/-- What has arrived from a source and has not been taken. -/
structure Subscription where
  source : Nat
  inbox : List InterfaceChange := []
  /-- Nothing more will arrive. -/
  ended : Bool := false
deriving DecidableEq

/-- Where a consumer stands between two of its sections. -/
inductive Phase
  /-- About to take the next change, or to find that there is none. -/
  | receiving
  /-- Holds a change and has not looked whether its interface is watched. -/
  | checking (change : InterfaceChange)
  /-- Waits for the status of an interface; others follow. -/
  | reading (interface : InterfaceId) (next : List InterfaceId)
  /-- Holds the status of an interface; others follow. -/
  | publishing (interface : InterfaceId) (status : OperStatus)
      (next : List InterfaceId)
  /-- Found that the source has ended. -/
  | leaving
  /-- Waits before it subscribes again. -/
  | pausing
  /-- Has a new subscription and has not looked what is watched. -/
  | gathering
  /-- Does nothing any more. -/
  | finished
deriving DecidableEq

/-- An activity that works on one subscription after another. -/
structure Consumer where
  subscription : Subscription
  phase : Phase := .receiving
  /-- A call took the consumer over in order to end it. -/
  released : Bool := false
deriving DecidableEq

/-- Where published statuses go. -/
inductive Sink
  | detached
  | attached
  /-- The listener is gone, which the next publication will find. -/
  | abandoned
deriving DecidableEq

/-- A call that has inserted its interface and has not published its status. -/
structure Start where
  interface : InterfaceId
  /-- The status, once it has been read. -/
  status : Option OperStatus := none
deriving DecidableEq

end Watch

/-- The shared state of an observer. -/
structure Observer where
  /-- The watched interfaces, each once. -/
  watched : List InterfaceId := []
  /-- The consumer at hand, by its place among all consumers. -/
  stored : Option Nat := none
  /-- Every consumer there ever was. -/
  consumers : List Watch.Consumer := []
  /-- Calls between two of their sections, each with its own number. -/
  starts : List (Nat × Watch.Start) := []
  /-- The number of the next such call. -/
  nextStart : Nat := 0
  sink : Watch.Sink := .detached
  /-- What was put on the sink, in order. -/
  outbox : List StatusEvent := []
deriving DecidableEq

namespace Observer

open Watch

def isWatching (observer : Observer) (interface : InterfaceId) : Bool :=
  observer.watched.contains interface

/-- The consumer at hand is at work. -/
def isSubscribed (observer : Observer) : Bool :=
  match observer.stored with
  | none => false
  | some index =>
      observer.consumers[index]?.any fun consumer =>
        consumer.phase ≠ .finished

/-- One consumer after a change of its own. -/
def setConsumer (observer : Observer) (index : Nat) (consumer : Consumer) :
    Observer :=
  { observer with consumers := observer.consumers.set index consumer }

/-! ## The sink -/

/-- Attach a new listener in place of any other. -/
def listen (observer : Observer) : Observer :=
  { observer with sink := .attached, outbox := [] }

/-- Detach the listener. -/
def cancelListen (observer : Observer) : Observer :=
  { observer with sink := .detached }

/-- The listener goes away by itself. -/
def abandon (observer : Observer) : Observer :=
  match observer.sink with
  | .attached => { observer with sink := .abandoned }
  | _ => observer

/-- Put an event on the sink; one without a listener is detached. -/
def emit (observer : Observer) (event : StatusEvent) : Observer :=
  match observer.sink with
  | .attached => { observer with outbox := observer.outbox ++ [event] }
  | .abandoned => { observer with sink := .detached }
  | .detached => observer

/-- Put a status on the sink, unless the interface is not watched. -/
def publish (observer : Observer) (interface : InterfaceId)
    (status : OperStatus) : Observer :=
  if observer.isWatching interface then
    observer.emit { status := status.connection, interface }
  else observer

/-! ## Starting -/

/-- Watch an interface. -/
def insert (observer : Observer) (interface : InterfaceId) : Observer :=
  if observer.isWatching interface then observer
  else { observer with watched := observer.watched ++ [interface] }

/-- Store a new consumer of a source. -/
def spawn (observer : Observer) (source : Nat) : Observer :=
  { observer with
    stored := some observer.consumers.length
    consumers := observer.consumers ++ [{ subscription := { source } }] }

/-- What the first section of a start finds. -/
inductive Enrolment
  /-- The interface is watched and the subscription is alive. -/
  | settled
  /-- There was no subscription and there could not be one. -/
  | refused (error : Error)
  /-- The interface is watched now, and its status is to be read. -/
  | enrolled
deriving DecidableEq

/--
The first section of a start: subscribe unless a consumer is at work, and
insert the interface.  `answer` is what the monitor says if it is asked.
-/
def enrol (observer : Observer) (interface : InterfaceId)
    (answer : Except Error Nat) : Observer × Enrolment :=
  if observer.isSubscribed then
    if observer.isWatching interface then (observer, .settled)
    else (observer.insert interface, .enrolled)
  else
    match answer with
    | .error error => (observer, .refused error)
    | .ok source => ((observer.spawn source).insert interface, .enrolled)

/-! ## Stopping -/

/-- Take the consumer at hand over in order to end it. -/
def release (observer : Observer) : Observer :=
  match observer.stored with
  | none => observer
  | some index =>
      { observer with
        stored := none
        consumers :=
          observer.consumers.modify index fun consumer =>
            { consumer with released := true } }

/-- Stop watching an interface, and release the consumer with the last one. -/
def withdraw (observer : Observer) (interface : InterfaceId) : Observer :=
  if observer.isWatching interface then
    let rest :=
      { observer with watched := observer.watched.erase interface }
    if rest.watched = [] then rest.release else rest
  else observer

/-- Stop watching everything. -/
def withdrawAll (observer : Observer) : Observer :=
  { observer with watched := [] }.release

/-- End the consumers that were released. -/
def reap (observer : Observer) : Observer :=
  { observer with
    consumers :=
      observer.consumers.map fun consumer =>
        if consumer.released then { consumer with phase := .finished }
        else consumer }

/-- The observer goes away: all it did ends. -/
def dismiss (observer : Observer) : Observer :=
  { observer.withdrawAll.reap with starts := [], sink := .detached }

end Observer

/-! ## Calls that run without a break -/

namespace Observer

variable {m : Type → Type} [Monad m]

/-- The first section of a start, with the monitor asked only when needed. -/
def enrolWith (monitor : Monitor m) (observer : Observer)
    (interface : InterfaceId) : m (Observer × Enrolment) :=
  if observer.isSubscribed then
    return observer.enrol interface (.error .unavailable)
  else do
    let answer ← monitor.subscribe
    return observer.enrol interface answer

/-- Stop watching an interface and wait until the consumer has ended. -/
def stop (observer : Observer) (interface : InterfaceId) : Observer :=
  (observer.withdraw interface).reap

/-- Stop watching everything and wait until the consumer has ended. -/
def stopAll (observer : Observer) : Observer :=
  observer.withdrawAll.reap

end Observer

end Tunnel
