import Tunnel.Config.Parser
import Tunnel.Proofs.Outcome
import Tunnel.Proofs.Text.Cut

/-!
# Values of entries

What a value must spell to be read, apart from the order in which the reader
looks at it: a key, a number of sixteen bits, an endpoint, or a list of
prefixes between commas.
-/

namespace Tunnel.Config

/-- A text in base64 that is not empty and spells a key. -/
def IsKeyText (value : List Char) (key : Key) : Prop :=
  value ≠ [] ∧ Key.ofText value = .ok key

/-- A text that spells a number of sixteen bits. -/
def IsWordText (value : List Char) (word : UInt16) : Prop :=
  Numeral.word16? value = some word

/-- A text that spells an endpoint. -/
def IsEndpointText (value : List Char) (endpoint : Endpoint) : Prop :=
  Endpoint.ofText? value = some endpoint

/--
An empty text, or prefixes with commas between them and at most one comma
after the last.
-/
def IsNetworksText (value : List Char) (networks : List Prefix) : Prop :=
  (value = [] ∧ networks = []) ∨
    ∃ items, items ≠ [] ∧ (∀ item ∈ items, ',' ∉ item) ∧
      (value = Text.join [','] items ∨
        value = Text.join [','] items ++ [',']) ∧
      List.Forall₂ (fun item network => Prefix.ofText item = .ok network)
        items networks

/-! ## What is read -/

theorem keyValue_eq_ok_iff {value : List Char} {key : Key} :
    keyValue value = .ok key ↔ IsKeyText value key := by
  by_cases empty : value = []
  · simp [keyValue, IsKeyText, empty]
  · simp [keyValue, IsKeyText, empty, mapError_eq_ok_iff]

theorem numberValue_eq_ok_iff {name value : List Char} {word : UInt16} :
    numberValue name value = .ok word ↔ IsWordText value word := by
  unfold numberValue IsWordText
  cases Numeral.word16? value <;> simp

theorem endpointValue_eq_ok_iff {value : List Char} {endpoint : Endpoint} :
    endpointValue value = .ok endpoint ↔ IsEndpointText value endpoint := by
  unfold endpointValue IsEndpointText
  cases Endpoint.ofText? value <;> simp

/-- No prefix is read from an empty item. -/
theorem ne_nil_of_forall₂ {items : List (List Char)}
    {networks : List Prefix}
    (read : List.Forall₂
      (fun item network => Prefix.ofText item = .ok network) items networks)
    {item : List Char} (member : item ∈ items) : item ≠ [] := by
  rintro rfl
  obtain ⟨network, -, unread⟩ := exists_of_forall₂ read member
  cases unread

theorem listItems_join {items : List (List Char)} (some : items ≠ [])
    (absent : ∀ item ∈ items, ',' ∉ item)
    (full : ∀ item ∈ items, item ≠ []) :
    listItems (Text.join [','] items) = items := by
  have cut := Text.split_join some absent
  have nonempty : Text.join [','] items ≠ [] := by
    intro empty
    rw [empty, Text.split_nil] at cut
    exact full [] (by simp [← cut]) rfl
  have last : items.getLast? ≠ Option.some [] := fun last =>
    full [] (List.mem_of_getLast? last) rfl
  simp [listItems, nonempty, cut, last]

theorem listItems_join_comma {items : List (List Char)} (some : items ≠ [])
    (absent : ∀ item ∈ items, ',' ∉ item) :
    listItems (Text.join [','] items ++ [',']) = items := by
  have more : ∀ item ∈ items ++ [[]], ',' ∉ item := by
    intro item member
    rcases List.mem_append.1 member with inItems | isLast
    · exact absent item inItems
    · rw [List.mem_singleton.1 isLast]
      exact List.not_mem_nil
  have cut := Text.split_join (by simp) more
  rw [Text.join_append_nil [','] some] at cut
  have positive := List.length_pos_iff.2 some
  simp [listItems, cut, positive]

theorem networksValue_eq_ok_iff {value : List Char}
    {networks : List Prefix} :
    networksValue value = .ok networks ↔ IsNetworksText value networks := by
  have each : networksValue value = .ok networks ↔
      List.Forall₂ (fun item network => Prefix.ofText item = .ok network)
        (listItems value) networks := by
    rw [networksValue, mapM_eq_ok_iff]
    simp only [mapError_eq_ok_iff]
  rw [each]
  constructor
  · intro read
    by_cases empty : value = []
    · left
      rw [listItems, if_pos empty, List.forall₂_nil_left_iff] at read
      exact ⟨empty, read⟩
    · right
      have whole := Text.join_split ',' value
      have absent : ∀ item ∈ Text.split ',' value, ',' ∉ item :=
        fun item => Text.not_mem_of_mem_split
      simp only [listItems, if_neg empty] at read
      split at read
      · next trailing =>
          obtain ⟨several, last⟩ := trailing
          have parts := List.dropLast_append_getLast? [] last
          have some : (Text.split ',' value).dropLast ≠ [] := by
            rw [Ne, ← List.length_eq_zero_iff, List.length_dropLast]
            omega
          refine ⟨_, some, fun item member =>
            absent item (List.dropLast_subset _ member), Or.inr ?_, read⟩
          rw [← Text.join_append_nil [','] some, parts, whole]
      · exact ⟨_, Text.split_ne_nil ',' value, absent, Or.inl whole.symm,
          read⟩
  · rintro (⟨rfl, rfl⟩ | ⟨items, some, absent, plain | trailing, read⟩)
    · exact List.Forall₂.nil
    · rw [plain, listItems_join some absent fun item member =>
        ne_nil_of_forall₂ read member]
      exact read
    · rw [trailing, listItems_join_comma some absent]
      exact read

end Tunnel.Config
