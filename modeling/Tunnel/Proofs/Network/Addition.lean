import Mathlib.Data.Set.Insert
import Tunnel.Proofs.Journal
import Tunnel.Proofs.Outcome

/-!
# What add passes do

An add pass goes on as long as the entries that it asks for are there, whether
they were added or had been there before (`run_addAll_of_isThere`).

A table that is a set inserts an entry that is asked for, and says of one that
it has that it is there already; others it may refuse (`IsEntrySet`).  A pass
over such a table that succeeds leaves what there was and everything that was
asked for, so that a second one finds it all and changes nothing
(`IsEntrySet.isRepeatable`).  Over a table that refuses nothing a pass always
succeeds, however often it is given one entry (`IsCollection.addAll`).
-/

namespace Tunnel

/-! ## Entries that are there -/

namespace Error

/--
The entry that was to be added is there: a system call reports that it exists
(17), whether or not the error names the operation.
-/
def IsPresent : Error → Prop
  | .os number _ | .osWithContext _ number _ => number = 17
  | _ => False

theorem isAlreadyExists_iff_isPresent {error : Error} :
    error.isAlreadyExists = true ↔ error.IsPresent := by
  cases error with
  | os number message | osWithContext operation number message =>
      exact decide_eq_true_iff.trans Option.some_inj
  | _ => exact iff_of_false Bool.false_ne_true id

instance (error : Error) : Decidable error.IsPresent :=
  decidable_of_iff _ isAlreadyExists_iff_isPresent

end Error

namespace Network

/-- An answer after which the entry is there. -/
def IsThere : Except Error Unit → Prop
  | .ok () => True
  | .error error => error.IsPresent

/-- What becomes of an entry that is there. -/
def additionStep (kind : EntryKind) (network : Prefix) :
    Except Error Unit → Step
  | .ok () => .added kind network
  | .error _ => .alreadyPresent kind network

section Runs

variable {World : Type} {kind : EntryKind} {network : Prefix}
  {rest : List Prefix} {world : World}
  {add : Prefix → StateM World (Except Error Unit)}

/-- What is left of a pass after an entry that is there. -/
theorem run_addAll_of_isThere {answer : Except Error Unit}
    (answered : ((add network).run world).1 = answer)
    (there : IsThere answer) :
    (addAll kind add (network :: rest)).run world =
      let later := (addAll kind add rest).run ((add network).run world).2
      (later.1.map (Pass.withStep (additionStep kind network answer)),
        later.2) := by
  rw [addAll, run_bind, answered]
  cases answer with
  | ok _ => rfl
  | error error =>
      dsimp only
      rw [if_pos (Error.isAlreadyExists_iff_isPresent.2 there)]
      rfl

/-- A pass that succeeds has found or added its first entry. -/
theorem isThere_of_run_addAll {pass : Pass}
    (passed : ((addAll kind add (network :: rest)).run world).1 = .ok pass) :
    IsThere ((add network).run world).1 := by
  rw [addAll, run_bind] at passed
  cases answered : ((add network).run world).1 with
  | ok _ => trivial
  | error error =>
      rw [answered] at passed
      refine Error.isAlreadyExists_iff_isPresent.1
        (Decidable.byContradiction fun absent => ?_)
      dsimp only at passed
      rw [if_neg absent] at passed
      cases passed

/-- Where every entry is there when it was asked for, a pass succeeds. -/
theorem exists_run_addAll
    (there : ∀ network world, IsThere ((add network).run world).1)
    (kind : EntryKind) (networks : List Prefix) (world : World) :
    ∃ pass, ((addAll kind add networks).run world).1 = .ok pass := by
  induction networks generalizing world with
  | nil => exact ⟨{}, rfl⟩
  | cons network rest ih =>
      obtain ⟨pass, passed⟩ := ih ((add network).run world).2
      rw [run_addAll_of_isThere rfl (there network world)]
      dsimp only
      rw [passed]
      exact ⟨_, rfl⟩

end Runs

/-! ## Tables that are sets -/

/-- The entries for networks. -/
def entriesOf {Entry : Type} (entry : Prefix → Entry)
    (networks : List Prefix) : Set Entry :=
  {found | ∃ network ∈ networks, found = entry network}

@[simp]
theorem entriesOf_nil {Entry : Type} (entry : Prefix → Entry) :
    entriesOf entry [] = ∅ :=
  Set.eq_empty_of_forall_notMem fun _ ⟨_, member, _⟩ =>
    List.not_mem_nil member

theorem union_entriesOf_cons {Entry : Type} (entry : Prefix → Entry)
    (network : Prefix) (rest : List Prefix) (entries : Set Entry) :
    insert (entry network) entries ∪ entriesOf entry rest =
      entries ∪ entriesOf entry (network :: rest) := by
  ext found
  simp only [entriesOf, Set.mem_union, Set.mem_insert_iff,
    Set.mem_ofPred_eq, List.mem_cons, or_and_right, exists_or,
    exists_eq_left]
  rw [or_comm (a := found = entry network), or_assoc]

/--
In every world there is a set of entries.  An addition that succeeds inserts
its entry, one that fails leaves the set, and it fails because the entry is
there exactly if it is.  Nothing else that is looked at changes.
-/
structure IsEntrySet {World Entry Other : Type}
    (entries : World → Set Entry) (others : World → Other)
    (entry : Prefix → Entry)
    (add : Prefix → StateM World (Except Error Unit)) : Prop where
  inserts : ∀ network world, ((add network).run world).1 = .ok () →
    entries ((add network).run world).2 =
      insert (entry network) (entries world)
  refuses : ∀ network world error,
    ((add network).run world).1 = .error error →
    entries ((add network).run world).2 = entries world
  mem_iff : ∀ network world, entry network ∈ entries world ↔
    ∃ error, ((add network).run world).1 = .error error ∧ error.IsPresent
  keeps : ∀ network world,
    others ((add network).run world).2 = others world

/--
Whenever an operation succeeds as a pass, the entries for some networks are
there afterwards, and if it follows once more it succeeds and changes nothing.
-/
def IsRepeatable {World Entry Other : Type} (entries : World → Set Entry)
    (others : World → Other) (entry : Prefix → Entry)
    (networks : List Prefix)
    (operation : StateM World (Except Error Pass)) : Prop :=
  ∀ world first, (operation.run world).1 = .ok first →
    let after := (operation.run world).2
    (∀ network ∈ networks, entry network ∈ entries after) ∧
      ∃ second, (operation.run after).1 = .ok second ∧
        second.changes = 0 ∧
        entries (operation.run after).2 = entries after ∧
        others (operation.run after).2 = others after

namespace IsEntrySet

variable {World Entry Other : Type} {entries : World → Set Entry}
  {others : World → Other} {entry : Prefix → Entry}
  {add : Prefix → StateM World (Except Error Unit)} {network : Prefix}
  {world : World}

/-- An entry that is there afterwards was put there or had been there. -/
theorem entries_of_isThere (set : IsEntrySet entries others entry add)
    (there : IsThere ((add network).run world).1) :
    entries ((add network).run world).2 =
      insert (entry network) (entries world) := by
  cases answered : ((add network).run world).1 with
  | ok _ => exact set.inserts network world answered
  | error error =>
      rw [answered] at there
      rw [set.refuses network world error answered,
        Set.insert_eq_of_mem ((set.mem_iff network world).2
          ⟨error, answered, there⟩)]

/-- A pass that succeeds leaves what there was and all that it asked for. -/
theorem addAll (set : IsEntrySet entries others entry add)
    (kind : EntryKind) (networks : List Prefix) (world : World) {pass : Pass}
    (passed : ((Network.addAll kind add networks).run world).1 = .ok pass) :
    let after := ((Network.addAll kind add networks).run world).2
    entries after = entries world ∪ entriesOf entry networks ∧
      others after = others world := by
  induction networks generalizing world pass with
  | nil =>
      refine ⟨?_, rfl⟩
      rw [entriesOf_nil, Set.union_empty]
      rfl
  | cons network rest ih =>
      have there := isThere_of_run_addAll passed
      rw [run_addAll_of_isThere rfl there] at passed ⊢
      obtain ⟨later, succeeded, -⟩ := map_eq_ok_iff.1 passed
      obtain ⟨grown, kept⟩ := ih _ succeeded
      dsimp only at grown kept ⊢
      rw [grown, set.entries_of_isThere there, union_entriesOf_cons]
      exact ⟨rfl, kept.trans (set.keeps network world)⟩

/-- A pass over entries that are all there finds them and changes nothing. -/
theorem run_addAll_of_mem (set : IsEntrySet entries others entry add)
    (kind : EntryKind) (networks : List Prefix) (world : World)
    (present : ∀ network ∈ networks, entry network ∈ entries world) :
    let after := (Network.addAll kind add networks).run world
    (∃ pass, after.1 = .ok pass ∧ pass.changes = 0) ∧
      entries after.2 = entries world ∧ others after.2 = others world := by
  induction networks generalizing world with
  | nil => exact ⟨⟨{}, rfl, rfl⟩, rfl, rfl⟩
  | cons network rest ih =>
      obtain ⟨first, onward⟩ := List.forall_mem_cons.1 present
      obtain ⟨error, answered, known⟩ := (set.mem_iff network world).1 first
      have same := set.refuses network world error answered
      obtain ⟨⟨pass, passed, unchanged⟩, alike, kept⟩ :=
        ih ((add network).run world).2 (by rwa [same])
      dsimp only at passed alike kept ⊢
      rw [run_addAll_of_isThere answered known]
      dsimp only
      rw [passed]
      refine ⟨⟨_, rfl, ?_⟩, alike.trans same,
        kept.trans (set.keeps network world)⟩
      exact (List.countP_cons_of_neg Bool.false_ne_true).trans unchanged

/-- A pass that succeeded can be repeated without effect. -/
theorem isRepeatable (set : IsEntrySet entries others entry add)
    (kind : EntryKind) (networks : List Prefix) :
    IsRepeatable entries others entry networks
      (Network.addAll kind add networks) := by
  intro world first passed after
  obtain ⟨grown, -⟩ := set.addAll kind networks world passed
  have present : ∀ network ∈ networks, entry network ∈ entries after := by
    intro network member
    rw [grown]
    exact Or.inr ⟨network, member, rfl⟩
  obtain ⟨⟨second, again, unchanged⟩, same, kept⟩ :=
    set.run_addAll_of_mem kind networks after present
  exact ⟨present, second, again, unchanged, same, kept⟩

end IsEntrySet

/--
In every world there is a set of entries, into which an entry is inserted
unless it is there, which is answered by the error for that.  Nothing else that
is looked at changes.
-/
structure IsCollection {World Entry Other : Type}
    (entries : World → Set Entry) (others : World → Other)
    (entry : Prefix → Entry)
    (add : Prefix → StateM World (Except Error Unit)) : Prop where
  inserts : ∀ network world, entry network ∉ entries world →
    let after := (add network).run world
    after.1 = .ok () ∧
      entries after.2 = insert (entry network) (entries world)
  repeats : ∀ network world, entry network ∈ entries world →
    let after := (add network).run world
    (∃ error, after.1 = .error error ∧
      error.systemNumber = some Errno.entryExists) ∧
      entries after.2 = entries world
  keeps : ∀ network world,
    others ((add network).run world).2 = others world

namespace IsCollection

variable {World Entry Other : Type} {entries : World → Set Entry}
  {others : World → Other} {entry : Prefix → Entry}
  {add : Prefix → StateM World (Except Error Unit)}

/-- A collection is a set that refuses nothing but what is there. -/
theorem isEntrySet (collection : IsCollection entries others entry add) :
    IsEntrySet entries others entry add where
  inserts network world succeeded := by
    by_cases present : entry network ∈ entries world
    · obtain ⟨⟨error, failed, -⟩, -⟩ :=
        collection.repeats network world present
      cases failed.symm.trans succeeded
    · exact (collection.inserts network world present).2
  refuses network world error failed := by
    by_cases present : entry network ∈ entries world
    · exact (collection.repeats network world present).2
    · cases (collection.inserts network world present).1.symm.trans failed
  mem_iff network world := by
    constructor
    · intro present
      obtain ⟨⟨error, failed, number⟩, -⟩ :=
        collection.repeats network world present
      exact ⟨error, failed, Error.isAlreadyExists_iff_isPresent.1
        (decide_eq_true number)⟩
    · rintro ⟨error, failed, -⟩
      by_contra absent
      cases (collection.inserts network world absent).1.symm.trans failed
  keeps := collection.keeps

/-- Either way an entry is there afterwards. -/
theorem isThere (collection : IsCollection entries others entry add)
    (network : Prefix) (world : World) :
    IsThere ((add network).run world).1 := by
  by_cases present : entry network ∈ entries world
  · obtain ⟨error, failed, known⟩ :=
      (collection.isEntrySet.mem_iff network world).1 present
    rw [failed]
    exact known
  · rw [(collection.inserts network world present).1]
    trivial

/-- A pass over a set leaves what there was and all that was asked for. -/
theorem addAll (collection : IsCollection entries others entry add)
    (kind : EntryKind) (networks : List Prefix) (world : World) :
    let after := (Network.addAll kind add networks).run world
    (∃ pass, after.1 = .ok pass) ∧
      entries after.2 = entries world ∪ entriesOf entry networks ∧
      others after.2 = others world := by
  obtain ⟨pass, passed⟩ :=
    exists_run_addAll collection.isThere kind networks world
  have set := collection.isEntrySet
  exact ⟨⟨pass, passed⟩, set.addAll kind networks world passed⟩

end IsCollection

end Network

end Tunnel
