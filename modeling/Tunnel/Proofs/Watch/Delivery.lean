import Tunnel.Proofs.Watch.Sections
import Tunnel.Proofs.Watch.Truthful

/-!
# What a consumer makes of what reaches it

From one source after another a consumer is told of changes, and in between
that a source has ended.  A change of a watched interface asks for one event,
and the end of a source for one event of each watched interface; a change of
any other interface asks for none.  `Answers` says which events answer which
arrivals, when the monitor has given certain replies.

At any time a consumer has answered a first part of what has reached it.  Then
comes what it is at, and after that what waits in its subscription.
`Phase.Serves` says for each phase how far the consumer has come with what it
is at, and each section leads from there to where the next phase says.
-/

namespace Tunnel

namespace Watch

/-! ## Arrivals and their answers -/

/-- What reaches a consumer from its sources. -/
inductive Arrival
  | told (change : InterfaceChange)
  /-- The source at hand has ended. -/
  | ended
deriving DecidableEq

/-- What the monitor says when a consumer asks for a status. -/
structure Reply where
  interface : InterfaceId
  answer : Except Error OperStatus

/-- The event that a reply is worth. -/
def Reply.event (reply : Reply) : StatusEvent :=
  { status := (readStatus reply.answer).connection,
    interface := reply.interface }

/-- The events that answer some arrivals, with the replies they took. -/
inductive Answers (watched : List InterfaceId) :
    List Arrival → List Reply → List StatusEvent → Prop
  | nothing : Answers watched [] [] []
  | ignored {arrivals replies events} {change : InterfaceChange}
      (answers : Answers watched arrivals replies events)
      (unwatched : change.interface ∉ watched) :
      Answers watched (arrivals ++ [.told change]) replies events
  /-- A change that carries a status is answered with it. -/
  | carried {arrivals replies events} {change : InterfaceChange}
      {status : OperStatus}
      (answers : Answers watched arrivals replies events)
      (member : change.interface ∈ watched)
      (carries : change.status = some status) :
      Answers watched (arrivals ++ [.told change]) replies
        (events ++
          [{ status := status.connection, interface := change.interface }])
  /-- For any other change of a watched interface its status is read. -/
  | asked {arrivals replies events} {change : InterfaceChange}
      (answers : Answers watched arrivals replies events)
      (member : change.interface ∈ watched) (bare : change.status = none)
      (answer : Except Error OperStatus) :
      Answers watched (arrivals ++ [.told change])
        (replies ++ [⟨change.interface, answer⟩])
        (events ++ [Reply.event ⟨change.interface, answer⟩])
  /-- After the end of a source everything watched is read, in some order. -/
  | renewed {arrivals replies events} {fresh : List Reply}
      (answers : Answers watched arrivals replies events)
      (all : (fresh.map Reply.interface).Perm watched) :
      Answers watched (arrivals ++ [.ended]) (replies ++ fresh)
        (events ++ fresh.map Reply.event)

/-- What a consumer has come to in a phase, all it has taken included. -/
inductive Phase.Serves (watched : List InterfaceId) :
    Phase → List Arrival → List Reply → List StatusEvent → Prop
  | receiving {arrivals replies events}
      (answers : Answers watched arrivals replies events) :
      Serves watched .receiving arrivals replies events
  | checking {arrivals replies events} {change : InterfaceChange}
      (answers : Answers watched arrivals replies events) :
      Serves watched (.checking change) (arrivals ++ [.told change]) replies
        events
  | asking {arrivals replies events} {change : InterfaceChange}
      (answers : Answers watched arrivals replies events)
      (member : change.interface ∈ watched) (bare : change.status = none) :
      Serves watched (.reading change.interface [])
        (arrivals ++ [.told change]) replies events
  | asked {arrivals replies events} {change : InterfaceChange}
      (answers : Answers watched arrivals replies events)
      (member : change.interface ∈ watched) (bare : change.status = none)
      (answer : Except Error OperStatus) :
      Serves watched (.publishing change.interface (readStatus answer) [])
        (arrivals ++ [.told change])
        (replies ++ [⟨change.interface, answer⟩]) events
  | carried {arrivals replies events} {change : InterfaceChange}
      {status : OperStatus}
      (answers : Answers watched arrivals replies events)
      (member : change.interface ∈ watched)
      (carries : change.status = some status) :
      Serves watched (.publishing change.interface status [])
        (arrivals ++ [.told change]) replies events
  | leaving {arrivals replies events}
      (answers : Answers watched arrivals replies events) :
      Serves watched .leaving (arrivals ++ [.ended]) replies events
  | pausing {arrivals replies events}
      (answers : Answers watched arrivals replies events) :
      Serves watched .pausing (arrivals ++ [.ended]) replies events
  | gathering {arrivals replies events}
      (answers : Answers watched arrivals replies events) :
      Serves watched .gathering (arrivals ++ [.ended]) replies events
  /-- Of what is watched a part has been published again. -/
  | renewing {arrivals replies events} {fresh : List Reply}
      {interface : InterfaceId} {next : List InterfaceId}
      (answers : Answers watched arrivals replies events)
      (all : (fresh.map Reply.interface ++ interface :: next).Perm watched) :
      Serves watched (.reading interface next) (arrivals ++ [.ended])
        (replies ++ fresh) (events ++ fresh.map Reply.event)
  | renewed {arrivals replies events} {fresh : List Reply}
      {interface : InterfaceId} {next : List InterfaceId}
      (answers : Answers watched arrivals replies events)
      (all : (fresh.map Reply.interface ++ interface :: next).Perm watched)
      (answer : Except Error OperStatus) :
      Serves watched (.publishing interface (readStatus answer) next)
        (arrivals ++ [.ended]) (replies ++ fresh ++ [⟨interface, answer⟩])
        (events ++ fresh.map Reply.event)

section Serves

variable {watched : List InterfaceId} {arrivals : List Arrival}
  {replies : List Reply} {events : List StatusEvent}

/-- Only watched interfaces are answered for. -/
theorem Answers.mem_watched
    (answers : Answers watched arrivals replies events) :
    ∀ event ∈ events, event.interface ∈ watched := by
  induction answers with
  | nothing => nofun
  | ignored _ _ ih => exact ih
  | carried _ member _ ih | asked _ member _ _ ih =>
      exact List.forall_mem_append.2
        ⟨ih, List.forall_mem_singleton.2 member⟩
  | renewed _ all ih =>
      refine List.forall_mem_append.2 ⟨ih, List.forall_mem_map.2 ?_⟩
      exact fun reply held => all.mem_iff.1 (List.mem_map_of_mem held)

namespace Phase.Serves

theorem mem_watched {phase : Phase}
    (serves : phase.Serves watched arrivals replies events) :
    ∀ event ∈ events, event.interface ∈ watched := by
  have renewing : ∀ {events : List StatusEvent} {fresh : List Reply}
      {next : List InterfaceId},
      (∀ event ∈ events, event.interface ∈ watched) →
      (fresh.map Reply.interface ++ next).Perm watched →
        ∀ event ∈ events ++ fresh.map Reply.event,
          event.interface ∈ watched := by
    intro events fresh next before all
    refine List.forall_mem_append.2 ⟨before, List.forall_mem_map.2 ?_⟩
    exact fun reply held => all.mem_iff.1
      (List.mem_append_left _ (List.mem_map_of_mem held))
  cases serves with
  | renewing answers all | renewed answers all _ =>
      exact renewing answers.mem_watched all
  | _ => exact Answers.mem_watched ‹_›

/-- A consumer that is to take the next change has answered all it took. -/
theorem answers (serves : Phase.receiving.Serves watched arrivals replies
    events) : Answers watched arrivals replies events := by
  cases serves with
  | receiving answers => exact answers

/-- A consumer that serves its subscription has not ended. -/
theorem ne_finished {phase : Phase}
    (serves : phase.Serves watched arrivals replies events) :
    phase ≠ .finished := by
  rintro rfl
  cases serves

theorem check {change : InterfaceChange} {isWatched : InterfaceId → Bool}
    (serves : (Phase.checking change).Serves watched arrivals replies events)
    (looks : ∀ interface, isWatched interface = true ↔ interface ∈ watched) :
    Phase.Serves watched
      (if isWatched change.interface then
        match change.status with
        | some status => .publishing change.interface status []
        | none => .reading change.interface []
      else .receiving)
      arrivals replies events := by
  cases serves with
  | checking answers =>
      split
      · next watching =>
          have member := (looks _).1 watching
          split
          · next carries => exact .carried answers member carries
          · next bare => exact .asking answers member bare
      · next unwatched =>
          rw [looks] at unwatched
          exact .receiving (answers.ignored unwatched)

theorem read {interface : InterfaceId} {next : List InterfaceId}
    (serves : (Phase.reading interface next).Serves watched arrivals replies
      events) (answer : Except Error OperStatus) :
    (Phase.publishing interface (readStatus answer) next).Serves watched
      arrivals (replies ++ [⟨interface, answer⟩]) events := by
  cases serves with
  | asking answers member bare => exact .asked answers member bare answer
  | renewing answers all => exact .renewed answers all answer

/-- What is left to be read after a source has ended is read next. -/
theorem reads {fresh : List Reply} {next : List InterfaceId}
    (answers : Answers watched arrivals replies events)
    (all : (fresh.map Reply.interface ++ next).Perm watched) :
    (Phase.reads next).Serves watched (arrivals ++ [.ended])
      (replies ++ fresh) (events ++ fresh.map Reply.event) := by
  cases next with
  | nil =>
      rw [List.append_nil] at all
      exact .receiving (answers.renewed all)
  | cons interface next => exact .renewing answers all

/-- What is published is the event that was asked for. -/
theorem publish {interface : InterfaceId} {status : OperStatus}
    {next : List InterfaceId}
    (serves : (Phase.publishing interface status next).Serves watched
      arrivals replies events) :
    interface ∈ watched ∧
      (Phase.reads next).Serves watched arrivals replies
        (events ++ [{ status := status.connection, interface }]) := by
  cases serves with
  | asked answers member bare answer =>
      exact ⟨member, .receiving (answers.asked member bare answer)⟩
  | carried answers member carries =>
      exact ⟨member, .receiving (answers.carried member carries)⟩
  | @renewed _ replies events fresh _ _ answers all answer =>
      refine ⟨all.mem_iff.1 (by simp), ?_⟩
      have served := reads answers
        (show ((fresh ++ [(⟨interface, answer⟩ : Reply)]).map
          Reply.interface ++ next).Perm watched by simpa using all)
      rw [List.map_append, ← List.append_assoc, ← List.append_assoc] at served
      exact served

theorem gather {order : List InterfaceId}
    (serves : Phase.gathering.Serves watched arrivals replies events)
    (all : order.Perm watched) :
    (Phase.reads order).Serves watched arrivals replies events := by
  cases serves with
  | @gathering arrivals replies events answers =>
      have served := reads answers
        (show (([] : List Reply).map Reply.interface ++ order).Perm watched
          from all)
      rw [List.append_nil, List.map_nil, List.append_nil] at served
      exact served

end Phase.Serves

end Serves

/-! ## Consumers -/

/-- A source has ended, and the consumer has taken note of it. -/
def Phase.isParting : Phase → Bool
  | .leaving | .pausing => true
  | _ => false

namespace Consumer

/-- What has reached a consumer and has not been taken. -/
def waiting (consumer : Consumer) : List Arrival :=
  consumer.subscription.inbox.map .told ++
    if consumer.subscription.ended && !consumer.phase.isParting then [.ended]
    else []

/--
A consumer serves its subscription: of what has reached it, it has answered a
first part in full, and nothing is gone but what it has taken.
-/
structure Serves (watched : List InterfaceId) (consumer : Consumer)
    (arrivals : List Arrival) (replies : List Reply)
    (events : List StatusEvent) : Prop where
  unreleased : consumer.released = false
  /-- Nothing is left of a source whose end was noticed. -/
  parted : consumer.phase.isParting = true →
    consumer.subscription.inbox = [] ∧ consumer.subscription.ended = true
  served : ∃ taken, arrivals = taken ++ consumer.waiting ∧
    consumer.phase.Serves watched taken replies events

section Sections

variable {watched : List InterfaceId} {arrivals : List Arrival}
  {replies more : List Reply} {events new : List StatusEvent}
  {before after : Consumer}

theorem Serves.ne_finished
    (serves : before.Serves watched arrivals replies events) :
    before.phase ≠ .finished := by
  obtain ⟨-, -, taken, -, served⟩ := serves
  exact served.ne_finished

theorem Serves.mem_watched
    (serves : before.Serves watched arrivals replies events) :
    ∀ event ∈ events, event.interface ∈ watched := by
  obtain ⟨-, -, taken, -, served⟩ := serves
  exact served.mem_watched

/-- Between two phases of one source nothing is taken. -/
theorem Serves.move (serves : before.Serves watched arrivals replies events)
    {phase : Phase} (same : phase.isParting = before.phase.isParting)
    (moves : ∀ taken, before.phase.Serves watched taken replies events →
      phase.Serves watched taken more new) :
    ({ before with phase } : Consumer).Serves watched arrivals more new := by
  obtain ⟨unreleased, parted, taken, rfl, served⟩ := serves
  refine ⟨unreleased, fun parting => parted (same ▸ parting), taken, ?_,
    moves taken served⟩
  unfold waiting
  rw [same]

theorem Serves.receive (serves : before.Serves watched arrivals replies events)
    (taken : before.receive? = some after) :
    after.Serves watched arrivals replies events := by
  obtain ⟨change, inbox, receiving, arrived, rfl⟩ := receive?_eq_some taken
  obtain ⟨unreleased, -, front, rfl, served⟩ := serves
  rw [receiving] at served
  refine ⟨unreleased, nofun, front ++ [.told change], ?_,
    .checking served.answers⟩
  simp [waiting, receiving, arrived, Phase.isParting]

theorem Serves.noticeEnd
    (serves : before.Serves watched arrivals replies events)
    (noticed : before.noticeEnd? = some after) :
    after.Serves watched arrivals replies events := by
  obtain ⟨receiving, drained, ended, rfl⟩ := noticeEnd?_eq_some noticed
  obtain ⟨unreleased, -, front, rfl, served⟩ := serves
  rw [receiving] at served
  refine ⟨unreleased, fun _ => ⟨drained, ended⟩, front ++ [.ended], ?_,
    .leaving served.answers⟩
  simp [waiting, receiving, drained, ended, Phase.isParting]

theorem Serves.check (serves : before.Serves watched arrivals replies events)
    {isWatched : InterfaceId → Bool}
    (looks : ∀ interface, isWatched interface = true ↔ interface ∈ watched)
    (checked : before.check? isWatched = some after) :
    after.Serves watched arrivals replies events := by
  obtain ⟨change, checking, rfl⟩ := check?_eq_some checked
  refine serves.move ?_ fun taken served => ?_
  · rw [checking]
    split
    · split <;> rfl
    · rfl
  · rw [checking] at served
    exact served.check looks

theorem Serves.read (serves : before.Serves watched arrivals replies events)
    {answer : Except Error OperStatus}
    (read : before.read? (readStatus answer) = some after) :
    ∃ interface, before.phase.awaited? = some interface ∧
      after.Serves watched arrivals (replies ++ [⟨interface, answer⟩])
        events := by
  obtain ⟨interface, next, reading, rfl⟩ := read?_eq_some read
  refine ⟨interface, congrArg Phase.awaited? reading, serves.move ?_ ?_⟩
  · rw [reading]
    rfl
  · intro taken served
    rw [reading] at served
    exact served.read answer

theorem Serves.leave (serves : before.Serves watched arrivals replies events)
    (left : before.leave? true = some after) :
    after.Serves watched arrivals replies events := by
  obtain ⟨leaving, rfl⟩ := leave?_eq_some left
  refine serves.move ?_ fun taken served => ?_
  · rw [leaving]
    rfl
  · rw [leaving] at served
    cases served with
    | leaving answers => exact .pausing answers

/-- Nothing waits in the subscription that is given up. -/
theorem Serves.resubscribe
    (serves : before.Serves watched arrivals replies events) {source : Nat}
    (resumed : before.resubscribe? (.ok source) = some after) :
    after.Serves watched arrivals replies events := by
  obtain ⟨pausing, rfl⟩ := resubscribe?_eq_some resumed
  obtain ⟨unreleased, parted, taken, rfl, served⟩ := serves
  rw [pausing] at served parted
  obtain ⟨drained, -⟩ := parted rfl
  refine ⟨unreleased, nofun, taken, ?_, ?_⟩
  · simp [waiting, pausing, drained, Phase.isParting]
  · cases served with
    | pausing answers => exact .gathering answers

theorem isParting_reads (next : List InterfaceId) :
    (Phase.reads next).isParting = false := by
  cases next <;> rfl

theorem Serves.gather (serves : before.Serves watched arrivals replies events)
    {order : List InterfaceId} (all : order.Perm watched)
    (gathered : before.gather? order = some after) :
    after.Serves watched arrivals replies events := by
  obtain ⟨gathering, rfl⟩ := gather?_eq_some gathered
  refine serves.move ?_ fun taken served => ?_
  · rw [gathering]
    exact isParting_reads order
  · rw [gathering] at served
    exact served.gather all

theorem Serves.publish
    (serves : before.Serves watched arrivals replies events)
    {interface : InterfaceId} {status : OperStatus} {next : List InterfaceId}
    (stands : before.phase = .publishing interface status next) :
    interface ∈ watched ∧
      ({ before with phase := Phase.reads next } : Consumer).Serves watched
        arrivals replies
        (events ++ [{ status := status.connection, interface }]) := by
  obtain ⟨-, -, taken, -, served⟩ := id serves
  rw [stands] at served
  refine ⟨served.publish.1, serves.move ?_ fun taken served => ?_⟩
  · rw [stands]
    exact isParting_reads next
  · rw [stands] at served
    exact served.publish.2

/-- What arrives is the last that waits. -/
theorem Serves.deliver (serves : before.Serves watched arrivals replies events)
    (change : InterfaceChange) :
    (before.deliver change).Serves watched
      (arrivals ++ if before.isReachable then [.told change] else [])
      replies events := by
  unfold Consumer.deliver
  split
  · next reachable =>
      have going : before.subscription.ended = false := by
        simpa using (Bool.and_eq_true_iff.1 reachable).2
      obtain ⟨unreleased, parted, taken, rfl, served⟩ := serves
      refine ⟨unreleased, fun parting => ?_, taken, ?_, served⟩
      · rw [going] at parted
        cases (parted parting).2
      · simp [waiting, going]
  · rw [List.append_nil]
    exact serves

/-- The end of a source arrives after all that was told. -/
theorem Serves.endSource
    (serves : before.Serves watched arrivals replies events)
    (reachable : before.isReachable = true) :
    before.endSource.Serves watched (arrivals ++ [.ended]) replies events := by
  have going : before.subscription.ended = false := by
    simpa using (Bool.and_eq_true_iff.1 reachable).2
  obtain ⟨unreleased, parted, taken, rfl, served⟩ := serves
  have busy : before.phase.isParting = false := by
    refine Bool.eq_false_iff.2 fun parting => ?_
    rw [going] at parted
    cases (parted parting).2
  refine ⟨unreleased, fun parting => ?_, taken, ?_, served⟩
  · exact absurd parting (ne_true_of_eq_false busy)
  · simp [waiting, Consumer.endSource, going, busy]

end Sections

end Consumer

end Watch

end Tunnel
