import Mathlib.Data.List.Forall2

/-!
# Outcomes

What it takes for steps that may fail to succeed: a sequence succeeds exactly
if its first step does and what comes next does with the value of the first,
and a step taken for each item of a list succeeds exactly if it does for every
item.
-/

namespace Tunnel

variable {Fault Other α β : Type}

theorem bind_eq_ok_iff {first : Except Fault α} {next : α → Except Fault β}
    {result : β} :
    first >>= next = .ok result ↔
      ∃ value, first = .ok value ∧ next value = .ok result := by
  cases first with
  | error fault => simp [bind, Except.bind]
  | ok value => simp [bind, Except.bind]

theorem bind_eq_error_iff {first : Except Fault α}
    {next : α → Except Fault β} {fault : Fault} :
    first >>= next = .error fault ↔
      first = .error fault ∨
        ∃ value, first = .ok value ∧ next value = .error fault := by
  cases first with
  | error other => simp [bind, Except.bind]
  | ok value => simp [bind, Except.bind]

theorem map_eq_ok_iff {first : Except Fault α} {image : α → β} {result : β} :
    first.map image = .ok result ↔
      ∃ value, first = .ok value ∧ image value = result := by
  cases first with
  | error fault => simp [Except.map]
  | ok value => simp [Except.map]

theorem mapError_eq_ok_iff {first : Except Fault α} {other : Fault → Other}
    {result : α} :
    first.mapError other = .ok result ↔ first = .ok result := by
  cases first with
  | error fault => simp [Except.mapError]
  | ok value => simp [Except.mapError]

/-- A check that stops a sequence is passed if the sequence succeeds. -/
theorem check_eq_ok_iff {condition : Prop} [Decidable condition]
    {fault : Fault} {next : PUnit → Except Fault α}
    {rest : Except Fault α} {result : α} :
    (if condition then throw fault >>= next else rest) = .ok result ↔
      ¬condition ∧ rest = .ok result := by
  by_cases holds : condition
  · rw [if_pos holds]
    exact ⟨nofun, fun passed => absurd holds passed.1⟩
  · rw [if_neg holds]
    exact ⟨fun same => ⟨holds, same⟩, fun passed => passed.2⟩

theorem mapM_eq_ok_iff {step : α → Except Fault β} {items : List α}
    {results : List β} :
    items.mapM step = .ok results ↔
      List.Forall₂ (fun item result => step item = .ok result)
        items results := by
  induction items generalizing results with
  | nil =>
      rw [List.mapM_nil, List.forall₂_nil_left_iff]
      exact ⟨fun same => (Except.ok.inj same).symm, fun same => same ▸ rfl⟩
  | cons item items ih =>
      rw [List.mapM_cons, bind_eq_ok_iff, List.forall₂_cons_left_iff]
      constructor
      · rintro ⟨result, first, others⟩
        obtain ⟨rest, mapped, same⟩ := bind_eq_ok_iff.1 others
        exact ⟨result, rest, first, ih.1 mapped, (Except.ok.inj same).symm⟩
      · rintro ⟨result, rest, first, others, rfl⟩
        exact ⟨result, first, bind_eq_ok_iff.2 ⟨rest, ih.2 others, rfl⟩⟩

theorem foldlM_cons_eq_ok_iff {step : α → β → Except Fault α} {start final : α}
    {item : β} {items : List β} :
    (item :: items).foldlM step start = .ok final ↔
      ∃ next, step start item = .ok next ∧
        items.foldlM step next = .ok final := by
  rw [List.foldlM_cons, bind_eq_ok_iff]

/-- Steps whose success depends on the item only succeed in any sequence. -/
theorem exists_foldlM_eq_ok_iff {step : α → β → Except Fault α}
    {Good : β → Prop}
    (each : ∀ state item, (∃ next, step state item = .ok next) ↔ Good item)
    (items : List β) (start : α) :
    (∃ final, items.foldlM step start = .ok final) ↔
      ∀ item ∈ items, Good item := by
  induction items generalizing start with
  | nil =>
      constructor
      · intro _ item member
        cases member
      · intro _
        exact ⟨start, rfl⟩
  | cons item items ih =>
      constructor
      · rintro ⟨final, run⟩ other member
        obtain ⟨next, first, others⟩ := foldlM_cons_eq_ok_iff.1 run
        rcases List.mem_cons.1 member with rfl | inItems
        · exact (each start other).1 ⟨next, first⟩
        · exact (ih next).1 ⟨final, others⟩ other inItems
      · intro good
        obtain ⟨next, first⟩ := (each start item).2
          (good item List.mem_cons_self)
        obtain ⟨final, others⟩ := (ih next).2 fun other member =>
          good other (List.mem_cons_of_mem _ member)
        exact ⟨final, foldlM_cons_eq_ok_iff.2 ⟨next, first, others⟩⟩

theorem mapM_eq_some_iff {step : α → Option β} {items : List α}
    {results : List β} :
    items.mapM step = some results ↔
      List.Forall₂ (fun item result => step item = some result)
        items results := by
  induction items generalizing results with
  | nil =>
      rw [List.mapM_nil, List.forall₂_nil_left_iff]
      exact ⟨fun same => (Option.some.inj same).symm, fun same => same ▸ rfl⟩
  | cons item items ih =>
      rw [List.mapM_cons, List.forall₂_cons_left_iff]
      constructor
      · intro mapped
        obtain ⟨result, first, others⟩ := Option.bind_eq_some_iff.1 mapped
        obtain ⟨rest, mapped, same⟩ := Option.bind_eq_some_iff.1 others
        exact ⟨result, rest, first, ih.1 mapped, (Option.some.inj same).symm⟩
      · rintro ⟨result, rest, first, others, rfl⟩
        exact Option.bind_eq_some_iff.2 ⟨result, first,
          Option.bind_eq_some_iff.2 ⟨rest, ih.2 others, rfl⟩⟩

/-- An item of a list that is matched with results has one. -/
theorem exists_of_forall₂ {Related : α → β → Prop} {items : List α}
    {results : List β} (related : List.Forall₂ Related items results)
    {item : α} (member : item ∈ items) :
    ∃ result ∈ results, Related item result := by
  induction related with
  | nil => cases member
  | cons first _ ih =>
      rcases List.mem_cons.1 member with rfl | inRest
      · exact ⟨_, List.mem_cons_self, first⟩
      · obtain ⟨result, inResults, found⟩ := ih inRest
        exact ⟨result, List.mem_cons_of_mem _ inResults, found⟩

theorem exists_of_mapM_eq_some {step : α → Option β} {items : List α}
    {results : List β} (mapped : items.mapM step = some results)
    {item : α} (member : item ∈ items) :
    ∃ result, step item = some result := by
  obtain ⟨result, -, found⟩ :=
    exists_of_forall₂ (mapM_eq_some_iff.1 mapped) member
  exact ⟨result, found⟩

/-- A step that succeeds for each image of a value gives the values back. -/
theorem mapM_map_eq_some {step : α → Option β} {image : β → α}
    {values : List β}
    (each : ∀ value ∈ values, step (image value) = some value) :
    (values.map image).mapM step = some values := by
  rw [mapM_eq_some_iff, List.forall₂_map_left_iff, List.forall₂_same]
  exact each

end Tunnel
