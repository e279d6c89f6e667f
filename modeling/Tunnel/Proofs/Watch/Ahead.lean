import Tunnel.Proofs.Watch.Sections

/-!
# What a consumer will still publish

A consumer at work has publications ahead of it: of the status that it holds,
of interfaces that it is to read, of the changes in its inbox, and of
everything once its source has ended, since it will subscribe again and read
all that is watched.  Each is of a status that is known already, or of one
that is still to be read.

The last publication that is ahead decides what the listener knows in the
end.  No section of a consumer makes it outdated, and none drops it while its
interface is watched (`Keeps`).
-/

namespace Tunnel.Watch

/-- The statuses of all interfaces at some moment. -/
abbrev Statuses := InterfaceId → OperStatus

/-! ## Publications ahead -/

/-- A publication that is ahead, with its status when that is known. -/
abbrev Prospect := Option OperStatus

/-- What changes lead to for an interface. -/
def told (interface : InterfaceId) (changes : List InterfaceChange) :
    List Prospect :=
  changes.flatMap fun change =>
    if change.interface = interface then [change.status] else []

/-- What interfaces that are to be read lead to for one of them. -/
def unread (interface : InterfaceId) (next : List InterfaceId) :
    List Prospect :=
  next.flatMap fun other => if other = interface then [none] else []

/-- The publications of an interface that a phase leads to. -/
def Phase.ahead (interface : InterfaceId) : Phase → List Prospect
  | .receiving | .finished => []
  | .checking change => told interface [change]
  | .reading other next => unread interface (other :: next)
  | .publishing other status next =>
      (if other = interface then [some status] else []) ++
        unread interface next
  | .leaving | .pausing | .gathering => [none]

/-- The publications of an interface that are ahead of a consumer. -/
def Consumer.ahead (interface : InterfaceId) (consumer : Consumer) :
    List Prospect :=
  consumer.phase.ahead interface ++
    told interface consumer.subscription.inbox ++
      if consumer.subscription.ended then [none] else []

section Ahead

variable {interface other : InterfaceId}

theorem told_append (changes others : List InterfaceChange) :
    told interface (changes ++ others) =
      told interface changes ++ told interface others :=
  List.flatMap_append

theorem told_cons (change : InterfaceChange)
    (changes : List InterfaceChange) :
    told interface (change :: changes) =
      told interface [change] ++ told interface changes :=
  told_append [change] changes

theorem told_single (change : InterfaceChange) :
    told interface [change] =
      if change.interface = interface then [change.status] else [] :=
  List.flatMap_singleton _ change

theorem unread_cons (next : List InterfaceId) :
    unread interface (other :: next) =
      (if other = interface then [none] else []) ++
        unread interface next :=
  List.flatMap_cons

theorem unread_eq_none {next : List InterfaceId} {prospect : Prospect}
    (member : prospect ∈ unread interface next) : prospect = none := by
  obtain ⟨other, -, inner⟩ := List.mem_flatMap.1 member
  split at inner
  · exact List.mem_singleton.1 inner
  · cases inner

theorem unread_ne_nil {next : List InterfaceId} (member : interface ∈ next) :
    unread interface next ≠ [] := by
  have ahead : none ∈ unread interface next := by
    refine List.mem_flatMap.2 ⟨interface, member, ?_⟩
    rw [if_pos rfl]
    exact List.mem_singleton.2 rfl
  exact List.ne_nil_of_mem ahead

/-- Reading some statuses next puts just these ahead. -/
theorem ahead_reads (next : List InterfaceId) :
    (Phase.reads next).ahead interface = unread interface next := by
  cases next with
  | nil => rfl
  | cons other next => rfl

end Ahead

/-! ## The last publication -/

/-- The last publication that is ahead is not of another status. -/
def IsCurrent (status : OperStatus) (prospects : List Prospect) : Prop :=
  ∀ last, prospects.getLast? = some (some last) → last = status

section Current

variable {status : OperStatus} {front back : List Prospect}

theorem isCurrent_nil : IsCurrent status [] := nofun

/-- Prospects of which none is of another status end with a current one. -/
theorem isCurrent_of_forall
    (good : ∀ prospect ∈ front, ∀ known, prospect = some known →
      known = status) : IsCurrent status front :=
  fun last found => good _ (List.mem_of_getLast? found) last rfl

theorem isCurrent_of_unread {interface : InterfaceId}
    {next : List InterfaceId} :
    IsCurrent status (unread interface next) :=
  isCurrent_of_forall fun _ member _ known => by
    cases (unread_eq_none member).symm.trans known

theorem isCurrent_concat {prospect : Prospect}
    (good : ∀ last, prospect = some last → last = status) :
    IsCurrent status (front ++ [prospect]) := by
  intro last found
  rw [List.getLast?_concat] at found
  exact good last (Option.some.inj found)

theorem isCurrent_append_of_ne_nil (more : back ≠ []) :
    IsCurrent status (front ++ back) ↔ IsCurrent status back := by
  unfold IsCurrent
  rw [List.getLast?_append, List.getLast?_eq_some_getLast more]
  rfl

theorem IsCurrent.tail (current : IsCurrent status (front ++ back)) :
    IsCurrent status back := by
  by_cases empty : back = []
  · rw [empty]
    exact isCurrent_nil
  · exact (isCurrent_append_of_ne_nil empty).1 current

/-- The front of what is ahead may be exchanged for what is current. -/
theorem IsCurrent.exchange {other : List Prospect}
    (current : IsCurrent status (front ++ back))
    (good : IsCurrent status other) : IsCurrent status (other ++ back) := by
  by_cases empty : back = []
  · rw [empty, List.append_nil]
    exact good
  · exact (isCurrent_append_of_ne_nil empty).2 current.tail

end Current

/-! ## Sections -/

/--
A section does not make what is ahead outdated, and it leaves nothing ahead of
a watched interface only where nothing was.
-/
structure Keeps (statuses : Statuses) (watched : List InterfaceId)
    (before after : Consumer) : Prop where
  current : ∀ interface,
    IsCurrent (statuses interface) (before.ahead interface) →
      IsCurrent (statuses interface) (after.ahead interface)
  busy : ∀ interface ∈ watched, after.ahead interface = [] →
    before.ahead interface = []

section Keeps

variable {statuses : Statuses} {watched : List InterfaceId}
  {before after : Consumer}

theorem keeps_of_eq
    (same : ∀ interface, after.ahead interface = before.ahead interface) :
    Keeps statuses watched before after where
  current interface current := by rwa [same]
  busy interface _ none := by rwa [same] at none

/-- What ends with a reading is never outdated. -/
theorem keeps_of_reading (front : InterfaceId → List Prospect)
    (ends : ∀ interface, after.ahead interface = front interface ++ [none]) :
    Keeps statuses watched before after where
  current interface _ := by
    rw [ends]
    exact isCurrent_concat nofun
  busy interface _ empty := by
    rw [ends] at empty
    cases List.append_ne_nil_of_right_ne_nil _ (List.cons_ne_nil _ _) empty

theorem keeps_receive (taken : before.receive? = some after) :
    Keeps statuses watched before after := by
  obtain ⟨change, inbox, receiving, arrived, rfl⟩ :=
    Consumer.receive?_eq_some taken
  refine keeps_of_eq fun interface => ?_
  unfold Consumer.ahead
  rw [receiving, arrived, told_cons]
  rfl

theorem keeps_noticeEnd (noticed : before.noticeEnd? = some after) :
    Keeps statuses watched before after := by
  obtain ⟨receiving, drained, ended, rfl⟩ :=
    Consumer.noticeEnd?_eq_some noticed
  refine keeps_of_reading (fun _ => [none]) fun interface => ?_
  unfold Consumer.ahead
  rw [drained, if_pos ended]
  rfl

/-- A change is dropped only when its interface is not watched. -/
theorem keeps_check {observer : Observer}
    (checked : before.check? observer.isWatching = some after) :
    Keeps statuses observer.watched before after := by
  obtain ⟨change, checking, rfl⟩ := Consumer.check?_eq_some checked
  split
  · refine keeps_of_eq fun interface => ?_
    unfold Consumer.ahead
    rw [checking]
    cases carried : change.status with
    | none => simp [Phase.ahead, told, unread, carried]
    | some status => simp [Phase.ahead, told, unread, carried]
  · next unwatched =>
      -- What the change led to is lost, but of no interface that is watched.
      constructor
      · intro interface current
        unfold Consumer.ahead at current ⊢
        rw [List.append_assoc] at current ⊢
        exact current.exchange isCurrent_nil
      · intro interface member empty
        have other : change.interface ≠ interface := by
          rintro rfl
          exact unwatched (observer.isWatching_iff.2 member)
        unfold Consumer.ahead at empty ⊢
        rw [checking, Phase.ahead, told_single, if_neg other]
        exact empty

/-- What is read is the status, and it takes the place of its reading. -/
theorem keeps_read {status : OperStatus}
    (truthful : ∀ interface next,
      before.phase = .reading interface next →
        status = statuses interface)
    (read : before.read? status = some after) :
    Keeps statuses watched before after := by
  obtain ⟨other, next, reading, rfl⟩ := Consumer.read?_eq_some read
  have same := truthful other next reading
  constructor
  · intro interface current
    unfold Consumer.ahead at current ⊢
    rw [List.append_assoc] at current ⊢
    refine current.exchange (isCurrent_of_forall ?_)
    intro prospect member known found
    rcases List.mem_append.1 member with held | follows
    · split at held
      · next own =>
          cases own
          cases (List.mem_singleton.1 held).symm.trans found
          exact same
      · cases held
    · cases (unread_eq_none follows).symm.trans found
  · intro interface _ empty
    unfold Consumer.ahead at empty ⊢
    rw [reading]
    simp only [Phase.ahead, unread_cons, List.append_eq_nil_iff,
      ite_eq_right_iff, List.cons_ne_nil, imp_false] at empty ⊢
    exact empty

theorem keeps_leave {anyWatched : Bool} (running : after.isRunning = true)
    (left : before.leave? anyWatched = some after) :
    Keeps statuses watched before after := by
  obtain ⟨leaving, rfl⟩ := Consumer.leave?_eq_some left
  cases anyWatched with
  | true =>
      refine keeps_of_eq fun interface => ?_
      unfold Consumer.ahead
      rw [leaving]
      rfl
  | false => cases running

theorem keeps_resubscribe {answer : Except Error Nat}
    (running : after.isRunning = true)
    (resumed : before.resubscribe? answer = some after) :
    Keeps statuses watched before after := by
  obtain ⟨-, rfl⟩ := Consumer.resubscribe?_eq_some resumed
  cases answer with
  | ok source => exact keeps_of_reading (fun _ => []) fun interface => rfl
  | error error => cases running

theorem keeps_gather {order : List InterfaceId} (all : order.Perm watched)
    (gathered : before.gather? order = some after) :
    Keeps statuses watched before after := by
  obtain ⟨-, rfl⟩ := Consumer.gather?_eq_some gathered
  constructor
  · intro interface current
    unfold Consumer.ahead at current ⊢
    rw [List.append_assoc] at current ⊢
    rw [ahead_reads]
    exact current.exchange isCurrent_of_unread
  · intro interface member empty
    unfold Consumer.ahead at empty
    rw [ahead_reads, List.append_assoc] at empty
    cases unread_ne_nil (all.mem_iff.2 member)
      (List.append_eq_nil_iff.1 empty).1

theorem keeps_endSource : Keeps statuses watched before before.endSource :=
  keeps_of_reading _ fun _ => rfl

/-- What a consumer publishes is the first of what was ahead of it. -/
theorem ahead_of_publishing {other : InterfaceId} {status : OperStatus}
    {next : List InterfaceId}
    (stands : before.phase = .publishing other status next)
    (interface : InterfaceId) :
    before.ahead interface =
      (if other = interface then [some status] else []) ++
        { before with phase := Phase.reads next }.ahead interface := by
  unfold Consumer.ahead
  rw [stands, ahead_reads, Phase.ahead]
  simp only [List.append_assoc]

/-! ### Changes that arrive -/

variable {change : InterfaceChange}

theorem ahead_deliver_of_isReachable
    (reachable : before.isReachable = true) (interface : InterfaceId) :
    (before.deliver change).ahead interface =
      before.ahead interface ++ told interface [change] := by
  obtain ⟨-, open'⟩ := Bool.and_eq_true_iff.1 reachable
  have lasting : before.subscription.ended = false := by simpa using open'
  unfold Consumer.deliver Consumer.ahead
  rw [if_pos reachable, lasting, told_append]
  simp

theorem ahead_deliver_of_ne {interface : InterfaceId}
    (other : change.interface ≠ interface) :
    (before.deliver change).ahead interface = before.ahead interface := by
  by_cases reachable : before.isReachable = true
  · rw [ahead_deliver_of_isReachable reachable, told_single, if_neg other,
      List.append_nil]
  · unfold Consumer.deliver
    rw [if_neg reachable]

/--
After a change a consumer at work has a publication of the interface ahead
that is not outdated: the change has reached it, or its source has ended and
it will read everything.
-/
theorem ahead_deliver_self {status : OperStatus}
    (running : before.isRunning = true)
    (truthful : ∀ told, change.status = some told → told = status) :
    ∃ front prospect,
      (before.deliver change).ahead change.interface = front ++ [prospect] ∧
        ∀ last, prospect = some last → last = status := by
  by_cases reachable : before.isReachable = true
  · refine ⟨before.ahead change.interface, change.status, ?_, truthful⟩
    rw [ahead_deliver_of_isReachable reachable, told_single, if_pos rfl]
  · have ended : before.subscription.ended = true := by
      simpa [Consumer.isReachable, running] using reachable
    refine ⟨before.phase.ahead change.interface ++
      told change.interface before.subscription.inbox, none, ?_, nofun⟩
    unfold Consumer.deliver Consumer.ahead
    rw [if_neg reachable, if_pos ended]

theorem keeps_deliver (running : before.isRunning = true)
    (truthful : ∀ status, change.status = some status →
      status = statuses change.interface) :
    Keeps statuses watched before (before.deliver change) := by
  obtain ⟨front, prospect, ends, good⟩ :=
    ahead_deliver_self running truthful
  constructor
  · intro interface current
    by_cases own : change.interface = interface
    · cases own
      rw [ends]
      exact isCurrent_concat good
    · rwa [ahead_deliver_of_ne own]
  · intro interface _ empty
    by_cases own : change.interface = interface
    · cases own
      rw [ends] at empty
      cases List.append_ne_nil_of_right_ne_nil _ (List.cons_ne_nil _ _) empty
    · rwa [ahead_deliver_of_ne own] at empty

end Keeps

end Tunnel.Watch
