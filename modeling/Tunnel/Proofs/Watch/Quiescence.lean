import Tunnel.Proofs.Watch.EventSequence
import Tunnel.Proofs.Watch.Resubscription

/-!
# A consumer that comes to rest

A consumer that is followed is never stuck.  As long as it is at something, or
something waits in its subscription, there is a section of its own that can
happen, whatever the monitor says; and each such section leaves it less to do.
So everything that has reached it is answered after finitely many of them,
which is the other half of what `Attended.serves` says of its events.
-/

namespace Tunnel

namespace Observer

open Watch

/-- A publication leaves a listener attached. -/
theorem publish_attached {observer : Observer}
    (heard : observer.sink = .attached) (interface : InterfaceId)
    (status : OperStatus) :
    (observer.publish interface status).sink = .attached := by
  unfold publish
  split
  · rw [emit, heard]
  · exact heard

end Observer

namespace Watch

/-! ## What is left to do -/

/-- The sections that a phase is from receiving at most. -/
def Phase.toil (count : Nat) : Phase → Nat
  | .receiving | .finished => 0
  | .checking _ => 3
  | .reading _ next => 2 * next.length + 2
  | .publishing _ _ next => 2 * next.length + 1
  | .leaving => 2 * count + 3
  | .pausing => 2 * count + 2
  | .gathering => 2 * count + 1

/--
The sections that a consumer of some count of interfaces has ahead at most: the
rest of what it is at, four for each change that it has not taken, and a new
subscription with a reading of everything if its source has ended.
-/
def Consumer.toil (count : Nat) (consumer : Consumer) : Nat :=
  consumer.phase.toil count + 4 * consumer.subscription.inbox.length +
    if consumer.subscription.ended && !consumer.phase.isParting then
      2 * count + 4
    else 0

/-- Nothing is left that a consumer could do. -/
def Consumer.isAtRest (consumer : Consumer) : Bool :=
  consumer.phase = .receiving && consumer.waiting.isEmpty

theorem Phase.toil_reads (count : Nat) (next : List InterfaceId) :
    (Phase.reads next).toil count = 2 * next.length := by
  cases next <;> rfl

/-! ## Sections of a consumer -/

namespace Consumer

variable {consumer : Consumer} {count : Nat}

/-- A section can happen and leaves less to do. -/
def Shortens (count : Nat) (advance? : Consumer → Option Consumer)
    (consumer : Consumer) : Prop :=
  ∃ next, advance? consumer = some next ∧
    next.toil count < consumer.toil count

/-- At rest a consumer has answered all that has reached it. -/
theorem Serves.answers {watched : List InterfaceId} {arrivals : List Arrival}
    {replies : List Reply} {events : List StatusEvent}
    (serves : consumer.Serves watched arrivals replies events)
    (rests : consumer.isAtRest = true) :
    Answers watched arrivals replies events := by
  obtain ⟨-, -, taken, rfl, served⟩ := serves
  obtain ⟨ready, drained⟩ := Bool.and_eq_true_iff.1 rests
  rw [of_decide_eq_true ready] at served
  rw [List.isEmpty_iff.1 drained, List.append_nil]
  exact served.answers

theorem shortens_receive {change : InterfaceChange}
    {inbox : List InterfaceChange} (stands : consumer.phase = .receiving)
    (arrived : consumer.subscription.inbox = change :: inbox) :
    Shortens count receive? consumer := by
  unfold Shortens receive?
  rw [stands, arrived]
  refine ⟨_, rfl, ?_⟩
  simp [toil, stands, arrived, Phase.toil, Phase.isParting]
  omega

theorem shortens_noticeEnd (stands : consumer.phase = .receiving)
    (drained : consumer.subscription.inbox = [])
    (ended : consumer.subscription.ended = true) :
    Shortens count noticeEnd? consumer := by
  unfold Shortens noticeEnd?
  rw [stands, drained]
  refine ⟨_, if_pos ended, ?_⟩
  simp [toil, stands, drained, ended, Phase.toil, Phase.isParting]

/-- Between phases of one source only the phase counts. -/
theorem toil_lt_of_phase {phase : Phase}
    (same : phase.isParting = consumer.phase.isParting)
    (less : phase.toil count < consumer.phase.toil count) :
    ({ consumer with phase } : Consumer).toil count < consumer.toil count := by
  unfold toil
  rw [same]
  exact Nat.add_lt_add_right (Nat.add_lt_add_right less _) _

theorem shortens_of_phase {advance? : Consumer → Option Consumer}
    (phase : Phase) (moves : advance? consumer = some { consumer with phase })
    (same : phase.isParting = consumer.phase.isParting)
    (less : phase.toil count < consumer.phase.toil count) :
    Shortens count advance? consumer :=
  ⟨_, moves, toil_lt_of_phase same less⟩

theorem shortens_check {change : InterfaceChange}
    (isWatched : InterfaceId → Bool)
    (stands : consumer.phase = .checking change) :
    Shortens count (check? isWatched) consumer := by
  have moves : ∃ phase,
      check? isWatched consumer = some { consumer with phase } ∧
      phase.isParting = false ∧ phase.toil count < 3 := by
    unfold check?
    rw [stands]
    refine ⟨_, rfl, ?_⟩
    split
    · split <;> exact ⟨rfl, by simp [Phase.toil]⟩
    · exact ⟨rfl, by simp [Phase.toil]⟩
  obtain ⟨phase, moves, same, less⟩ := moves
  refine shortens_of_phase phase moves ?_ ?_
  · rw [same, stands]
    rfl
  · rw [stands]
    exact less

theorem shortens_leave (stands : consumer.phase = .leaving) :
    Shortens count (leave? true) consumer := by
  refine shortens_of_phase .pausing ?_ ?_ ?_
  · simp [leave?, stands]
  · rw [stands]
    rfl
  · rw [stands]
    exact Nat.lt_succ_self _

/-- A consumer that subscribes again has nothing waiting. -/
theorem shortens_resubscribe (source : Nat)
    (stands : consumer.phase = .pausing) :
    Shortens count (resubscribe? (.ok source)) consumer := by
  unfold Shortens resubscribe?
  rw [stands]
  refine ⟨_, rfl, ?_⟩
  simp [toil, stands, Phase.toil]
  omega

theorem shortens_gather {order : List InterfaceId}
    (bound : order.length = count) (stands : consumer.phase = .gathering) :
    Shortens count (gather? order) consumer := by
  refine shortens_of_phase (Phase.reads order) ?_ ?_ ?_
  · simp [gather?, stands]
  · rw [isParting_reads, stands]
    rfl
  · rw [Phase.toil_reads, stands, bound]
    exact Nat.lt_succ_self _

theorem shortens_read {interface : InterfaceId} {next : List InterfaceId}
    (status : OperStatus) (stands : consumer.phase = .reading interface next) :
    Shortens count (read? status) consumer := by
  refine shortens_of_phase (.publishing interface status next) ?_ ?_ ?_
  · simp [read?, stands]
  · rw [stands]
    rfl
  · rw [stands]
    exact Nat.lt_succ_self _

end Consumer

/-! ## Sections of an observer -/

/--
The consumer does a section of its own, undisturbed, where the monitor says
what is known beforehand, and less is left to do.
-/
structure Advance (answers : InterfaceId → Except Error OperStatus)
    (index : Nat) (consumer : Consumer) (passage : Passage)
    (next : Consumer) : Prop where
  happens : passage.before.step (passage.deed.action index) =
    some passage.after
  own : passage.deed.isOwn index = true
  calm : passage.IsCalm index passage.before.watched
  said : ∀ reply ∈ passage.replies index,
    reply.answer = answers reply.interface
  found : passage.after.consumers[index]? = some next
  less : next.toil passage.before.watched.length <
    consumer.toil passage.before.watched.length

section Progress

variable {before : Observer} {index : Nat} {consumer : Consumer}
  {arrivals : List Arrival} {replies : List Reply}
  {events : List StatusEvent}
  (answers : InterfaceId → Except Error OperStatus)
  (heard : before.sink = .attached)
  (found : before.consumers[index]? = some consumer)

include heard found

/-- Most sections leave all but the consumer alone. -/
theorem advance_of_section {advance? : Consumer → Option Consumer}
    (deed : Deed)
    (does : before.step (deed.action index) =
      before.stepConsumer index advance?)
    (goes : consumer.Shortens before.watched.length advance?)
    (own : deed.isOwn index = true) (fair : deed.isFair index = true)
    (said : ∀ after, ∀ reply ∈ Passage.replies index ⟨before, deed, after⟩,
      reply.answer = answers reply.interface) :
    ∃ deed after next,
      Advance answers index consumer ⟨before, deed, after⟩ next := by
  obtain ⟨next, moves, less⟩ := goes
  refine ⟨deed, before.setConsumer index next, next, ?_, own,
    ⟨fair, rfl, heard⟩, said _, before.getElem?_setConsumer found next, less⟩
  simp [does, Observer.stepConsumer, found, moves]

theorem advance_read {interface : InterfaceId} {next : List InterfaceId}
    (stands : consumer.phase = .reading interface next) :
    ∃ deed after next,
      Advance answers index consumer ⟨before, deed, after⟩ next := by
  refine advance_of_section answers heard found (.reads (answers interface))
    rfl (Consumer.shortens_read _ stands) rfl rfl fun after reply held => ?_
  have same : reply = ⟨interface, answers interface⟩ := by
    simpa [Passage.replies, found, stands, Phase.awaited?] using held
  rw [same]

theorem advance_publish {interface : InterfaceId} {status : OperStatus}
    {next : List InterfaceId}
    (stands : consumer.phase = .publishing interface status next) :
    ∃ deed after next,
      Advance answers index consumer ⟨before, deed, after⟩ next := by
  have happens := step_publish found stands
  have held := before.getElem?_setConsumer found
    { consumer with phase := Phase.reads next }
  have attached := Observer.publish_attached
    (show (before.setConsumer index
      { consumer with phase := Phase.reads next }).sink = .attached from heard)
    interface status
  have kept := (before.setConsumer index
    { consumer with phase := Phase.reads next }).publish_watched interface
      status
  rw [← Observer.publish_consumers _ interface status] at held
  refine ⟨.acts (.publish index), _, _, happens, decide_eq_true rfl,
    ⟨rfl, kept, attached⟩, nofun, held, ?_⟩
  refine Consumer.toil_lt_of_phase ?_ ?_
  · rw [Consumer.isParting_reads, stands]
    rfl
  · rw [Phase.toil_reads, stands]
    exact Nat.lt_succ_self _

/-- A consumer that is not at rest can go on. -/
theorem exists_advance (watching : before.watched ≠ [])
    (serves : consumer.Serves before.watched arrivals replies events)
    (busy : consumer.isAtRest = false) :
    ∃ deed after next,
      Advance answers index consumer ⟨before, deed, after⟩ next := by
  have goes := fun (action : Action) {advance? : Consumer → Option Consumer}
      (does : before.step action = before.stepConsumer index advance?)
      (goes : consumer.Shortens before.watched.length advance?) own fair =>
    advance_of_section answers heard found (.acts action) does goes own fair
      nofun
  have self : decide (index = index) = true := decide_eq_true rfl
  cases stands : consumer.phase with
  | receiving =>
      cases arrived : consumer.subscription.inbox with
      | cons change inbox =>
          exact goes (.receive index) rfl
            (Consumer.shortens_receive stands arrived) self rfl
      | nil =>
          cases ended : consumer.subscription.ended with
          | true =>
              exact goes (.noticeEnd index) rfl
                (Consumer.shortens_noticeEnd stands arrived ended) self rfl
          | false =>
              simp [Consumer.isAtRest, Consumer.waiting, stands, arrived,
                ended] at busy
  | checking change =>
      exact goes (.check index) rfl (Consumer.shortens_check _ stands) self rfl
  | reading interface next => exact advance_read answers heard found stands
  | publishing interface status next =>
      exact advance_publish answers heard found stands
  | leaving =>
      have anyWatched : (!before.watched.isEmpty) = true := by
        simpa using watching
      have shortens : consumer.Shortens before.watched.length
          (Consumer.leave? true) := Consumer.shortens_leave stands
      rw [← anyWatched] at shortens
      exact goes (.leave index) rfl shortens self rfl
  | pausing =>
      exact goes (.resubscribe index (.ok 0)) rfl
        (Consumer.shortens_resubscribe 0 stands) self rfl
  | gathering =>
      exact goes (.gather index before.watched) (if_pos (List.Perm.refl _))
        (Consumer.shortens_gather rfl stands) self rfl
  | finished =>
      obtain ⟨_, _, _, _, served⟩ := serves
      exact absurd stands served.ne_finished

end Progress

/-! ## Histories -/

section Histories

variable {start observer : Observer} {index : Nat} {history : List Passage}
  {opening consumer : Consumer}

/-- Sections of a consumer bring it no news. -/
theorem arrivals_of_own {passages : List Passage}
    (own : ∀ passage ∈ passages, passage.deed.isOwn index = true) :
    arrivals index passages = [] := by
  refine List.flatMap_eq_nil_iff.2 fun passage member => ?_
  have ours := own passage member
  cases deed : passage.deed with
  | reads answer => simp [Passage.arrivals, deed]
  | acts action =>
      rw [deed] at ours
      cases action with
      | notify | deliver | endSource => cases ours
      | _ => simp [Passage.arrivals, deed]

namespace Attended

theorem heard (attended : Attended start index history observer)
    (attached : start.sink = .attached) : observer.sink = .attached := by
  cases attended with
  | begun => exact attached
  | step _ _ _ calm => exact calm.heard

/-- The consumer can go on by sections of its own until it is at rest. -/
theorem settles (attended : Attended start index history observer)
    (watching : start.watched ≠ []) (attached : start.sink = .attached)
    (found : start.consumers[index]? = some opening)
    (serves : opening.Serves start.watched opening.waiting [] [])
    (answers : InterfaceId → Except Error OperStatus) :
    ∃ rest final last, Attended start index (history ++ rest) final ∧
      (∀ passage ∈ rest, passage.deed.isOwn index = true) ∧
      (∀ reply ∈ replies index rest,
        reply.answer = answers reply.interface) ∧
      final.consumers[index]? = some last ∧ last.isAtRest = true := by
  obtain ⟨same, consumer, held, served⟩ :=
    attended.serves watching found serves
  induction left : consumer.toil start.watched.length
    using Nat.strongRecOn generalizing history observer consumer with
  | _ toil ih =>
      cases busy : consumer.isAtRest with
      | true =>
          refine ⟨[], observer, consumer, ?_, List.forall_mem_nil _,
            List.forall_mem_nil _, held, busy⟩
          rwa [List.append_nil]
      | false =>
          rw [← same] at watching served
          obtain ⟨deed, after, next, advance⟩ :=
            exists_advance answers (attended.heard attached) held watching
              served busy
          obtain ⟨happens, own, calm, said, goes, less⟩ := advance
          rw [same] at watching calm less
          rw [left] at less
          have longer := attended.step deed happens calm
          obtain ⟨kept, other, stands, served⟩ :=
            longer.serves watching found serves
          cases stands.symm.trans goes
          obtain ⟨rest, final, last, ends, owned, told, rests⟩ :=
            ih _ less longer kept next stands served rfl
          refine ⟨⟨observer, deed, after⟩ :: rest, final, last, ?_, ?_, ?_,
            rests⟩
          · rwa [List.append_assoc] at ends
          · exact List.forall_mem_cons.2 ⟨own, owned⟩
          · rw [replies, List.flatMap_cons]
            exact List.forall_mem_append.2 ⟨said, told⟩

end Attended

end Histories

/-! ## What a consumer puts on the sink -/

/-- The consumer at hand was not taken over by anyone. -/
theorem Run.unreleased_of_stored {history : List Transition}
    {observer : Observer} {index : Nat} {consumer : Consumer}
    (run : Run history observer) (stored : observer.stored = some index)
    (found : observer.consumers[index]? = some consumer) :
    consumer.released = false := by
  refine Bool.eq_false_iff.2 fun released => ?_
  have gone := run.isReleased_iff.1
    ((Observer.has_of_getElem? found).trans released)
  have once := run.handles.nodup_iff.2 List.nodup_range
  rw [stored, Option.toList_some, List.singleton_append] at once
  exact (List.nodup_cons.1 once).1 (List.mem_append_left _ gone)

/--
Let the consumer at hand be ready for its next change while a listener is
attached; then something is watched, each interface once.  As long as the
consumer is followed undisturbed, it never ends, and what it puts on the sink
are the answers to what has reached it, in order, up to what it is at and what
waits; nothing is put for an interface that is not watched.  Where it is at
rest, everything is answered, and by sections of its own it can always come to
rest, whatever the monitor says.
-/
theorem events_answer_arrivals {past : List Transition}
    {start observer : Observer} {index : Nat} {opening : Consumer}
    {history : List Passage} (run : Run past start)
    (stored : start.stored = some index)
    (found : start.consumers[index]? = some opening)
    (ready : opening.phase = .receiving) (attached : start.sink = .attached)
    (attended : Attended start index history observer) :
    start.watched ≠ [] ∧ start.watched.Nodup ∧
      ∃ consumer, observer.consumers[index]? = some consumer ∧
        consumer.phase ≠ .finished ∧
        (∃ taken,
          opening.waiting ++ arrivals index history =
            taken ++ consumer.waiting ∧
          consumer.phase.Serves start.watched taken (replies index history)
            (events index history)) ∧
        (∀ event ∈ events index history, event.interface ∈ start.watched) ∧
        (consumer.isAtRest = true →
          Answers start.watched (opening.waiting ++ arrivals index history)
            (replies index history) (events index history)) ∧
        ∀ answers : InterfaceId → Except Error OperStatus,
          ∃ rest final last, Attended start index (history ++ rest) final ∧
            (∀ passage ∈ rest, passage.deed.isOwn index = true) ∧
            (∀ reply ∈ replies index rest,
              reply.answer = answers reply.interface) ∧
            final.consumers[index]? = some last ∧ last.isAtRest = true ∧
            Answers start.watched (opening.waiting ++ arrivals index history)
              (replies index (history ++ rest))
              (events index (history ++ rest)) := by
  have watching := run.stored_iff.1 (Option.isSome_iff_exists.2 ⟨_, stored⟩)
  have opens := serves_opening (run.unreleased_of_stored stored found) ready
    start.watched
  obtain ⟨-, consumer, held, served⟩ := attended.serves watching found opens
  refine ⟨watching, run.nodup_watched, consumer, held, served.ne_finished,
    served.served, served.mem_watched, served.answers, fun answers => ?_⟩
  obtain ⟨rest, final, last, ends, own, told, stands, rests⟩ :=
    attended.settles watching attached found opens answers
  obtain ⟨-, other, same, done⟩ := ends.serves watching found opens
  cases same.symm.trans stands
  have answered := done.answers rests
  rw [arrivals_append, arrivals_of_own own, List.append_nil] at answered
  exact ⟨rest, final, last, ends, own, told, stands, rests, answered⟩

/-- Two interfaces are watched, and a listener is attached. -/
def twoWatched : List Action :=
  [.listen, .enrol ⟨1⟩ (.ok 0), .enrol ⟨2⟩ (.error .unavailable),
    .startReads 0 .up, .startPublishes 0]

/--
A source tells of three changes and ends; the consumer answers them, takes a
new source, is told of one change more while it reads all that is watched, and
answers that.
-/
def twoSources : List Deed :=
  [.acts (.notify ⟨⟨2⟩, some .up⟩), .acts (.notify ⟨⟨9⟩, some .down⟩),
    .acts (.receive 0), .acts (.notify ⟨⟨1⟩, none⟩), .acts (.check 0),
    .acts (.endSource 0), .acts (.publish 0), .acts (.receive 0),
    .acts (.check 0), .acts (.receive 0), .acts (.check 0),
    .reads (.error .unavailable), .acts (.publish 0), .acts (.noticeEnd 0),
    .acts (.notify ⟨⟨2⟩, some .testing⟩), .acts (.leave 0),
    .acts (.resubscribe 0 (.ok 1)), .acts (.gather 0 [⟨2⟩, ⟨1⟩]),
    .reads (.ok .down), .acts (.notify ⟨⟨1⟩, some .up⟩), .acts (.publish 0),
    .reads (.ok .dormant), .acts (.publish 0), .acts (.receive 0),
    .acts (.check 0), .acts (.publish 0)]

theorem events_answer_arrivals_twoSources :
    ∃ consumer, Attended (performed {} twoWatched) 0
        (attend 0 (performed {} twoWatched) twoSources)
        (afterDeeds 0 (performed {} twoWatched) twoSources) ∧
      (attend 0 (performed {} twoWatched) twoSources).length =
        twoSources.length ∧
      (afterDeeds 0 (performed {} twoWatched) twoSources).consumers[0]? =
        some consumer ∧
      consumer.isAtRest = true ∧
      Answers [⟨1⟩, ⟨2⟩]
        [.told ⟨⟨2⟩, some .up⟩, .told ⟨⟨9⟩, some .down⟩, .told ⟨⟨1⟩, none⟩,
          .ended, .told ⟨⟨1⟩, some .up⟩]
        [⟨⟨1⟩, .error .unavailable⟩, ⟨⟨2⟩, .ok .down⟩, ⟨⟨1⟩, .ok .dormant⟩]
        [⟨.connected, ⟨2⟩⟩, ⟨.unknown, ⟨1⟩⟩, ⟨.disconnected, ⟨2⟩⟩,
          ⟨.disconnected, ⟨1⟩⟩, ⟨.connected, ⟨1⟩⟩] := by
  have run := Run.created.perform twoWatched
  have opens : Attended (performed {} twoWatched) 0 []
    (performed {} twoWatched) := .begun
  have attended := opens.attend twoSources (by decide)
  obtain ⟨-, -, consumer, found, -, -, -, answers, -⟩ :=
    events_answer_arrivals run rfl rfl rfl rfl attended
  have stands : (afterDeeds 0 (performed {} twoWatched)
      twoSources).consumers[0]? = some { subscription := { source := 1 } } :=
    rfl
  cases found.symm.trans stands
  exact ⟨_, attended, rfl, found, rfl, answers rfl⟩

end Watch

end Tunnel
