import Tunnel.Proofs.Journal

/-!
# What removal passes report

A removal pass gives an account of the deletions that it asked for.  It is
read off the entries and the answers to their deletions alone, in the order of
the listing: which were removed, which were gone already, and which failures
are left (`Pass.ofAnswers`).  The account is complete, since each entry is in
exactly one of the three classes (`isAccount_ofAnswers`).

A pass fails only where its listing fails, and then it deletes nothing
(`yields_removeOwned_account`).
-/

namespace Tunnel

/-! ## Missing entries -/

namespace Error

/--
The thing asked for is not there: no interface of the name, or a system call
that reports no entry (2), no process (3), no device (19) or no such address
(99), whether or not the error names the operation.
-/
def IsMissing : Error → Prop
  | .interfaceNotFound _ => True
  | .os number _ | .osWithContext _ number _ => number ∈ [2, 3, 19, 99]
  | _ => False

theorem isNotFound_iff_isMissing {error : Error} :
    error.isNotFound = true ↔ error.IsMissing := by
  cases error with
  | os number message | osWithContext operation number message =>
      exact List.contains_iff_mem
  | interfaceNotFound message => exact iff_of_true rfl trivial
  | _ => exact iff_of_false Bool.false_ne_true id

instance (error : Error) : Decidable error.IsMissing :=
  decidable_of_iff _ isNotFound_iff_isMissing

end Error

namespace Network

/-! ## Answers to deletions -/

/-- The failure that an answer leaves. -/
def remaining? : Except Error Unit → Option Error
  | .ok () => none
  | .error error => if error.IsMissing then none else some error

/-- The answer says that the entry was gone already. -/
def isGone : Except Error Unit → Bool
  | .ok () => false
  | .error error => error.IsMissing

/-- What is said of an entry that is no longer there. -/
def line? (kind : EntryKind) (network : Prefix) :
    Except Error Unit → Option String
  | .ok () => some s!"removed {kind.name} {network}"
  | .error error =>
      if error.IsMissing then some s!"{kind.name} {network} already gone"
      else none

/-- Each answer is of one of three classes. -/
theorem count_answers (answers : List (Except Error Unit)) :
    answers.countP Except.isOk + (answers.filterMap remaining?).length +
      answers.countP isGone = answers.length := by
  induction answers with
  | nil => rfl
  | cons answer rest ih =>
      rw [List.length_cons]
      rcases answer with error | _
      · rw [List.countP_cons_of_neg Bool.false_ne_true]
        by_cases missing : error.IsMissing
        · have settled : remaining? (.error error) = none := if_pos missing
          have gone : isGone (.error error) = true := decide_eq_true missing
          rw [List.filterMap_cons_none settled, List.countP_cons_of_pos gone]
          omega
        · have left : remaining? (.error error) = some error := if_neg missing
          have there : ¬ isGone (.error error) = true :=
            mt of_decide_eq_true missing
          rw [List.filterMap_cons_some left, List.length_cons,
            List.countP_cons_of_neg there]
          omega
      · rw [List.countP_cons_of_pos rfl, List.filterMap_cons_none rfl,
          List.countP_cons_of_neg Bool.false_ne_true]
        omega

/-! ## Accounts -/

section Account

variable {Entry : Type} (kind : EntryKind) (network : Entry → Prefix)

/--
A pass accounts for entries and the answers to their deletions.  It counts the
deletions that succeeded, keeps the failures that matter and names what was
being done, and has one line for every other entry, all in order; no entry is
left out; and the pass is a success exactly if no failure matters.
-/
structure IsAccount (dealt : List (Entry × Except Error Unit))
    (pass : Pass) : Prop where
  changes : pass.changes = (dealt.map Prod.snd).countP Except.isOk
  failures :
    (pass.failures.map fun failure => (failure.operation, failure.error)) =
      dealt.filterMap fun (entry, answer) =>
        (remaining? answer).map
          (s!"removing {kind.name} {network entry}", ·)
  summary : pass.summary =
    dealt.filterMap fun (entry, answer) => line? kind (network entry) answer
  total : pass.changes + pass.failures.length +
    (dealt.map Prod.snd).countP isGone = dealt.length
  success : pass.isSuccess = true ↔
    ∀ entry error, (entry, Except.error error) ∈ dealt → error.IsMissing

/-- What becomes of an entry on the books. -/
def stepOf? : Entry × Except Error Unit → Option Step
  | (entry, .ok ()) => some (.removed kind (network entry))
  | (entry, .error error) =>
      if error.IsMissing then some (.alreadyGone kind (network entry))
      else none

def failureOf? : Entry × Except Error Unit → Option PassFailure
  | (entry, answer) =>
      (remaining? answer).map ({ kind, network := network entry, error := · })

/-- The pass that entries and the answers to their deletions make. -/
def Pass.ofAnswers (dealt : List (Entry × Except Error Unit)) : Pass where
  steps := dealt.filterMap (stepOf? kind network)
  failures := dealt.filterMap (failureOf? kind network)

theorem describe_stepOf? (dealt : Entry × Except Error Unit) :
    (stepOf? kind network dealt).map Step.describe =
      line? kind (network dealt.1) dealt.2 := by
  rcases dealt with ⟨entry, error | _⟩
  · dsimp only [stepOf?, line?]
    split <;> rfl
  · rfl

theorem isChange_stepOf? (dealt : Entry × Except Error Unit) :
    ((stepOf? kind network dealt).map Step.isChange).getD false =
      dealt.2.isOk := by
  rcases dealt with ⟨entry, error | _⟩
  · dsimp only [stepOf?]
    split <;> rfl
  · rfl

theorem changes_ofAnswers (dealt : List (Entry × Except Error Unit)) :
    (Pass.ofAnswers kind network dealt).changes =
      (dealt.map Prod.snd).countP Except.isOk := by
  unfold Pass.changes Pass.ofAnswers
  rw [List.countP_filterMap, List.countP_map]
  refine List.countP_congr fun deletion _ => ?_
  rw [isChange_stepOf?]
  rfl

theorem isAccount_ofAnswers (dealt : List (Entry × Except Error Unit)) :
    IsAccount kind network dealt (Pass.ofAnswers kind network dealt) where
  changes := changes_ofAnswers kind network dealt
  failures := by
    rw [Pass.ofAnswers, List.map_filterMap]
    congr 1
    funext deletion
    rw [failureOf?, Option.map_map]
    rfl
  summary := by
    rw [Pass.summary, Pass.ofAnswers, List.map_filterMap]
    congr 1
    funext deletion
    exact describe_stepOf? kind network deletion
  total := by
    have left : (dealt.filterMap (failureOf? kind network)).length =
        ((dealt.map Prod.snd).filterMap remaining?).length := by
      rw [List.filterMap_map, List.length_filterMap_eq_countP,
        List.length_filterMap_eq_countP]
      exact List.countP_congr fun deletion _ => by
        rw [failureOf?, Option.isSome_map]
        rfl
    rw [changes_ofAnswers, Pass.ofAnswers, left, count_answers,
      List.length_map]
  success := by
    rw [Pass.isSuccess, Pass.ofAnswers, List.isEmpty_iff,
      List.filterMap_eq_nil_iff]
    constructor
    · intro none entry error member
      have quiet := none _ member
      rw [failureOf?, Option.map_eq_none_iff, remaining?] at quiet
      exact Decidable.byContradiction fun present => by
        rw [if_neg present] at quiet
        cases quiet
    · rintro missing ⟨entry, error | _⟩ member
      · rw [failureOf?, remaining?, if_pos (missing entry error member)]
        rfl
      · rfl

end Account

/-! ## Passes -/

section Removal

variable {World Event Entry : Type} (kind : EntryKind)
  {isOwned : Entry → Bool} (network : Entry → Prefix)
  {delete : Entry → StateM (Recorded World Event) (Except Error Unit)}
  {deletion : Entry → Except Error Unit → Event}

/-- Every entry is asked for once, in order, and accounted for. -/
theorem yields_removeEach_account
    (asks : ∀ entry, Yields (delete entry) fun answer events =>
      events = [deletion entry answer])
    (entries : List Entry) :
    Yields (removeEach kind network delete entries) fun pass events =>
      ∃ answers, answers.length = entries.length ∧
        events = List.zipWith deletion entries answers ∧
        pass = Pass.ofAnswers kind network (entries.zip answers) := by
  induction entries with
  | nil => exact yields_pure ⟨[], rfl, rfl, rfl⟩
  | cons entry rest ih =>
      refine (asks entry).bind ?_
      rintro answer _ rfl
      refine ih.bind ?_
      rintro _ _ ⟨answers, same, rfl, rfl⟩
      have row : [deletion entry answer] ++
          (List.zipWith deletion rest answers ++ []) =
            List.zipWith deletion (entry :: rest) (answer :: answers) := by
        rw [List.append_nil]
        rfl
      have longer := congrArg (· + 1) same
      rcases answer with error | _
      · dsimp only
        split
        · next missing =>
            rw [Error.isNotFound_iff_isMissing] at missing
            refine yields_pure ⟨.error error :: answers, longer, row, ?_⟩
            simp [Pass.ofAnswers, Pass.withStep, stepOf?, failureOf?,
              remaining?, missing]
        · next present =>
            rw [Error.isNotFound_iff_isMissing] at present
            refine yields_pure ⟨.error error :: answers, longer, row, ?_⟩
            simp [Pass.ofAnswers, Pass.withFailure, stepOf?, failureOf?,
              remaining?, present]
      · exact yields_pure ⟨.ok () :: answers, longer, row, rfl⟩

/--
The calls of a removal pass, and what it gives.  If the listing fails, so does
the pass, and nothing is deleted.  Otherwise each listed entry that is owned is
to be deleted, once each time it is listed and in that order, whatever the
answers are, and the pass gives an account of them.
-/
def IsRemovalPass (isOwned : Entry → Bool)
    (listing : Except Error (List Entry) → Event)
    (deletion : Entry → Except Error Unit → Event)
    (result : Except Error Pass) (calls : List Event) : Prop :=
  (∃ error, calls = [listing (.error error)] ∧
      result = .error (error.withContext s!"listing {kind.plural}")) ∨
    ∃ listed answers pass,
      answers.length = (listed.filter isOwned).length ∧
      calls = listing (.ok listed) ::
        List.zipWith deletion (listed.filter isOwned) answers ∧
      result = .ok pass ∧
      IsAccount kind network ((listed.filter isOwned).zip answers) pass

theorem yields_removeOwned_account
    {list : StateM (Recorded World Event) (Except Error (List Entry))}
    {listing : Except Error (List Entry) → Event}
    (lists : Yields list fun answer events => events = [listing answer])
    (asks : ∀ entry, Yields (delete entry) fun answer events =>
      events = [deletion entry answer]) :
    Yields (removeOwned kind isOwned network list delete)
      (IsRemovalPass kind network isOwned listing deletion) := by
  refine lists.bind ?_
  rintro (error | listed) _ rfl
  · exact yields_pure (Or.inl ⟨error, rfl, rfl⟩)
  · refine (yields_removeEach_account kind network asks _).bind ?_
    rintro _ _ ⟨answers, same, rfl, rfl⟩
    refine yields_pure (Or.inr ⟨listed, answers, _, same, ?_, rfl,
      isAccount_ofAnswers kind network _⟩)
    rw [List.append_nil]
    rfl

end Removal

/--
Whatever tables list and answer, a pass that deletes the addresses of an
interface fails only if the listing fails, and then deletes nothing.  Otherwise
it asks to delete every listed address of the interface and no other, once each
time it is listed and in that order, and accounts for all the answers.  The
same holds of the routes.
-/
theorem removals_accounted {World Event : Type}
    (note : RouteTable.Event → Event) (table : RouteTable (StateM World))
    (interface : InterfaceId) :
    Yields (removeAllAddresses (table.recorded note) interface)
        (IsRemovalPass .address AddressEntry.network
          (fun entry => entry.interface = interface)
          (fun listed => note (.addressesListed listed))
          fun entry answer => note (.addressDeleted entry answer)) ∧
      Yields (removeAllRoutes (table.recorded note) interface)
        (IsRemovalPass .route RouteEntry.destination
          (fun entry => entry.interface = interface)
          (fun listed => note (.routesListed listed))
          fun entry answer => note (.routeDeleted entry answer)) := by
  constructor
  · exact yields_removeOwned_account _ _ (yields_record _ table.addresses)
      fun entry => yields_record _ (table.deleteAddress entry)
  · exact yields_removeOwned_account _ _ (yields_record _ table.routes)
      fun entry => yields_record _ (table.deleteRoute entry)

end Network

end Tunnel
