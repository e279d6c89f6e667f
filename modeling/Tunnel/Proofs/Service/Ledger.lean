import Tunnel.Proofs.Journal

/-!
# Which handles are held

A handle that a driver gives is held until it is closed.  What a journal says
of handles is entered into a list of those that are held, and a use or a
closing of a handle that is not held cannot be entered.  So a journal that can
be entered as a whole has every handle closed at most once and used only while
it is held, and the handles given are those closed together with those held
(`isBalanced_of_enterAll`).

`Settles` says of an operation that its part of the journal can be entered
where some handles are held, and what is held then.  It goes along with the
operations of a row (`Settles.bind`).
-/

namespace Tunnel

/-- A handle, with the driver that gave it. -/
structure Holding where
  driver : DriverId
  handle : Handle
deriving DecidableEq

/-- What becomes of a handle. -/
inductive Dealing
  | given (holding : Holding)
  | used (holding : Holding)
  | closed (holding : Holding)

/-! ## Ledgers -/

namespace Dealing

/-- The handle that a driver has given. -/
def given? : Dealing → Option Holding
  | given holding => some holding
  | _ => none

/-- The handle that is closed. -/
def closed? : Dealing → Option Holding
  | closed holding => some holding
  | _ => none

/-- The handle that has to be held for this to be right. -/
def needed? : Dealing → Option Holding
  | used holding | closed holding => some holding
  | given _ => none

/-- What is held afterwards, if the handle was held that has to be. -/
def enter (held : List Holding) : Dealing → Option (List Holding)
  | given holding => some (held ++ [holding])
  | used holding => if holding ∈ held then some held else none
  | closed holding =>
      if holding ∈ held then some (held.erase holding) else none

end Dealing

/--
Some dealings are in order, with some handles held at the end: all that were
given are closed or held, as often as they were given, and what is used or
closed was given more often than it was closed before.
-/
structure IsBalanced (dealings : List Dealing) (held : List Holding) :
    Prop where
  balance : (dealings.filterMap Dealing.given?).Perm
    (dealings.filterMap Dealing.closed? ++ held)
  order : ∀ before dealing after, dealings = before ++ dealing :: after →
    ∀ holding, dealing.needed? = some holding →
      (before.filterMap Dealing.closed?).count holding <
        (before.filterMap Dealing.given?).count holding

/-- Enter dealings in order. -/
def enterAll (held : List Holding) (dealings : List Dealing) :
    Option (List Holding) :=
  dealings.foldlM Dealing.enter held

section Ledger

variable {held after : List Holding} {dealing : Dealing}
  {dealings : List Dealing}

theorem enterAll_append (first later : List Dealing) :
    enterAll held (first ++ later) =
      (enterAll held first).bind (enterAll · later) :=
  List.foldlM_append

theorem enterAll_cons :
    enterAll held (dealing :: dealings) =
      (dealing.enter held).bind (enterAll · dealings) :=
  List.foldlM_cons

/-- What is needed is held. -/
theorem mem_of_enter {holding : Holding}
    (needed : dealing.needed? = some holding)
    (entered : dealing.enter held = some after) : holding ∈ held := by
  cases dealing with
  | given other => cases needed
  | used other | closed other =>
      cases needed
      exact Decidable.byContradiction fun foreign => by
        rw [Dealing.enter, if_neg foreign] at entered
        cases entered

/-- What was held and what is given is what is closed and what is held. -/
theorem perm_of_enterAll (entered : enterAll held dealings = some after) :
    (held ++ dealings.filterMap Dealing.given?).Perm
      (dealings.filterMap Dealing.closed? ++ after) := by
  induction dealings generalizing held with
  | nil =>
      cases entered
      exact List.Perm.of_eq (List.append_nil _)
  | cons dealing rest ih =>
      rw [enterAll_cons] at entered
      obtain ⟨next, first, others⟩ := Option.bind_eq_some_iff.1 entered
      cases dealing with
      | given holding =>
          cases first
          have more := ih others
          rw [List.append_assoc] at more
          exact more
      | used holding =>
          have member := mem_of_enter rfl first
          rw [Dealing.enter, if_pos member] at first
          cases first
          exact ih others
      | closed holding =>
          have member := mem_of_enter rfl first
          rw [Dealing.enter, if_pos member] at first
          cases first
          exact ((List.perm_cons_erase member).append_right _).trans
            ((ih others).cons holding)

/-- Dealings that can be entered from the start are in order. -/
theorem isBalanced_of_enterAll
    (entered : enterAll [] dealings = some held) :
    IsBalanced dealings held where
  balance := perm_of_enterAll entered
  order := by
    rintro before dealing after rfl holding needed
    rw [enterAll_append] at entered
    obtain ⟨now, start, onward⟩ := Option.bind_eq_some_iff.1 entered
    rw [enterAll_cons] at onward
    obtain ⟨next, first, -⟩ := Option.bind_eq_some_iff.1 onward
    have present := List.count_pos_iff.2 (mem_of_enter needed first)
    have balance := (perm_of_enterAll start).count_eq holding
    rw [List.nil_append, List.count_append] at balance
    omega

end Ledger

/-! ## Journals -/

/-- What a call of a driver means for handles. -/
def Driver.Event.dealing? (driver : DriverId) : Driver.Event → Option Dealing
  | created _ _ (.ok handle) | opened _ (.ok handle) =>
      some (.given ⟨driver, handle⟩)
  | created _ _ (.error _) | opened _ (.error _) => none
  | closed handle => some (.closed ⟨driver, handle⟩)
  | stateSet handle _ _ | stateRead handle _ | configured handle _ _
  | configurationRead handle _ _ | identified handle _
  | loggingSet handle _ _ => some (.used ⟨driver, handle⟩)

/-- What a call means for handles; only drivers know them. -/
def Backend.Event.dealing? : Backend.Event → Option Dealing
  | .driver owner event => event.dealing? owner
  | .driverLoaded _ | .table _ | .monitor _ => none

/-- What a journal says of handles. -/
def dealings (journal : List Backend.Event) : List Dealing :=
  journal.filterMap Backend.Event.dealing?

theorem dealings_append (first later : List Backend.Event) :
    dealings (first ++ later) = dealings first ++ dealings later :=
  List.filterMap_append

/-! ## Operations -/

section Settles

variable {World α β : Type} {held : List Holding}
  {operation : StateM (Recorded World Backend.Event) α}
  {property : α → List Holding → Prop}

/--
Where some handles are held, an operation uses and closes only these and those
that it is given, and its answer and what is held then have a property.
-/
def Settles (held : List Holding)
    (operation : StateM (Recorded World Backend.Event) α)
    (property : α → List Holding → Prop) : Prop :=
  Yields operation fun answer events => ∃ after,
    enterAll held (dealings events) = some after ∧ property answer after

theorem settles_pure {value : α} (holds : property value held) :
    Settles held
      (pure value : StateM (Recorded World Backend.Event) α) property :=
  yields_pure ⟨held, rfl, holds⟩

theorem Settles.bind {next : α → StateM (Recorded World Backend.Event) β}
    {result : β → List Holding → Prop}
    (first : Settles held operation property)
    (follows : ∀ value after, property value after →
      Settles after (next value) result) :
    Settles held (operation >>= next) result := by
  refine Yields.bind first ?_
  rintro value events ⟨after, entered, holds⟩
  refine (follows value after holds).mono ?_
  rintro answer later ⟨final, more, ends⟩
  refine ⟨final, ?_, ends⟩
  rw [dealings_append, enterAll_append, entered]
  exact more

/-- An operation at the end of a journal that can be entered. -/
theorem Settles.run (settles : Settles held operation property)
    {before : Recorded World Backend.Event}
    (entered : enterAll [] (dealings before.journal) = some held) :
    ∃ after,
      enterAll [] (dealings (operation.run before).2.journal) = some after ∧
        property (operation.run before).1 after := by
  obtain ⟨events, grown, after, more, holds⟩ := settles before
  refine ⟨after, ?_, holds⟩
  rw [grown, dealings_append, enterAll_append, entered]
  exact more

end Settles

/--
An operation leaves what is held as it was, and its answer has a property.
-/
abbrev Spares {World α : Type} (held : List Holding)
    (operation : StateM (Recorded World Backend.Event) α)
    (property : α → Prop) : Prop :=
  Settles held operation fun answer after => after = held ∧ property answer

section Spares

variable {World α β : Type} {held : List Holding}
  {operation : StateM (Recorded World Backend.Event) α}
  {property : α → Prop}

theorem Spares.bind {next : α → StateM (Recorded World Backend.Event) β}
    {result : β → List Holding → Prop}
    (first : Spares held operation property)
    (follows : ∀ value, property value → Settles held (next value) result) :
    Settles held (operation >>= next) result :=
  Settles.bind first fun value _ ⟨same, holds⟩ => same ▸ follows value holds

/-- What does not concern handles leaves them alone. -/
theorem spares_of_yields
    (yields : Yields operation fun answer events =>
      dealings events = [] ∧ property answer) :
    Spares held operation property := by
  refine yields.mono fun answer events ⟨silent, holds⟩ => ?_
  exact ⟨held, by rw [silent]; rfl, rfl, holds⟩

theorem spares_aside {operation : StateM World α} :
    Spares held (aside operation) fun _ => True := by
  refine spares_of_yields ((yields_aside operation).mono ?_)
  rintro answer _ rfl
  exact ⟨rfl, trivial⟩

end Spares

/-! ## Single calls -/

section Record

variable {World α : Type} {held : List Holding} {dealing : Dealing}
  {holding : Holding} {event : α → Backend.Event}
  {operation : StateM World α} {property : α → List Holding → Prop}

theorem enterAll_silent {event : Backend.Event}
    (silent : event.dealing? = none) :
    enterAll held (dealings [event]) = some held := by
  rw [dealings, List.filterMap_cons_none silent]
  rfl

theorem enterAll_single {event : Backend.Event}
    (dealt : event.dealing? = some dealing) :
    enterAll held (dealings [event]) = dealing.enter held := by
  rw [dealings, List.filterMap_cons_some dealt, List.filterMap_nil,
    enterAll_cons]
  cases dealing.enter held <;> rfl

/-- A call that is written down. -/
theorem settles_record
    (enters : ∀ answer, ∃ after,
      enterAll held (dealings [event answer]) = some after ∧
        property answer after) :
    Settles held (record event operation) property := by
  refine (yields_record event operation).mono ?_
  rintro answer _ rfl
  exact enters answer

theorem spares_record (silent : ∀ answer, (event answer).dealing? = none) :
    Spares held (record event operation) fun _ => True :=
  settles_record fun answer =>
    ⟨held, enterAll_silent (silent answer), rfl, trivial⟩

/-- A use of what is held leaves it held. -/
theorem spares_record_used
    (used : ∀ answer, (event answer).dealing? = some (.used holding))
    (member : holding ∈ held) :
    Spares held (record event operation) fun _ => True :=
  settles_record fun answer =>
    ⟨held, (enterAll_single (used answer)).trans (if_pos member), rfl,
      trivial⟩

/-- What is closed first was held first. -/
theorem settles_record_closed
    (closed : ∀ answer, (event answer).dealing? = some (.closed holding)) :
    Settles (holding :: held) (record event operation)
      fun _ after => after = held := by
  refine settles_record fun answer => ⟨held, ?_, rfl⟩
  rw [enterAll_single (closed answer), Dealing.enter,
    if_pos List.mem_cons_self, List.erase_cons_head]

end Record

end Tunnel
