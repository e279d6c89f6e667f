/-!
# Cutting text

Documents, addresses and prefixes are read from lists of characters.  This
module holds the cuts they share: lines, items between separators, the part
before the first or after the last separator, and blank margins.  The main
statements say that a cut loses nothing: `join_split` puts the items back
together, and `splitOnce?_eq_some` and `splitLast?_eq_some` give the text
that was cut.
-/

namespace Tunnel.Text

/-! ## Blanks -/

/--
The blank characters of Unicode (property `White_Space`): tabulation to
carriage return, the space, next line, the no-break space, and the wide and
narrow spaces and separators of the general punctuation and ideographic
blocks.
-/
def isBlank (character : Char) : Bool :=
  let code := character.toNat
  (0x09 ≤ code && code ≤ 0x0D) || code == 0x20 || code == 0x85 ||
    code == 0xA0 || code == 0x1680 || (0x2000 ≤ code && code ≤ 0x200A) ||
    code == 0x2028 || code == 0x2029 || code == 0x202F ||
    code == 0x205F || code == 0x3000

/-- Text without the blanks at its start. -/
def trimStart (text : List Char) : List Char :=
  text.dropWhile isBlank

/-- Text without the blanks at its end. -/
def trimEnd (text : List Char) : List Char :=
  (trimStart text.reverse).reverse

/-- Text without the blanks at either end. -/
def trim (text : List Char) : List Char :=
  trimEnd (trimStart text)

/-! ## Separators -/

/-- The items between the occurrences of a separator; there is at least one. -/
def split (separator : Char) (text : List Char) : List (List Char) :=
  text.foldr
    (fun character items =>
      if character = separator then [] :: items
      else match items with
        | [] => [[character]]
        | item :: rest => (character :: item) :: rest)
    [[]]

/-- Items with a separator between each two. -/
def join (separator : List Char) : List (List Char) → List Char
  | [] => []
  | [item] => item
  | item :: rest => item ++ separator ++ join separator rest

/-- The text before and after the first occurrence of a separator. -/
def splitOnce? (separator : Char) :
    List Char → Option (List Char × List Char)
  | [] => none
  | character :: rest =>
      if character = separator then some ([], rest)
      else (splitOnce? separator rest).map fun (before, after) =>
        (character :: before, after)

/-- The text before and after the last occurrence of a separator. -/
def splitLast? (separator : Char) (text : List Char) :
    Option (List Char × List Char) :=
  (splitOnce? separator text.reverse).map fun (after, before) =>
    (before.reverse, after.reverse)

/--
The lines of a text.  Each line feed ends a line, and what follows the last
one is a line unless it is empty.
-/
def lines (text : List Char) : List (List Char) :=
  let items := split '\n' text
  if items.getLast? = some [] then items.dropLast else items

/-! ## Laws -/

theorem split_ne_nil (separator : Char) (text : List Char) :
    split separator text ≠ [] := by
  cases text with
  | nil => simp [split]
  | cons character rest =>
      simp only [split, List.foldr_cons]
      split
      · simp
      · split <;> simp

@[simp]
theorem split_nil (separator : Char) : split separator [] = [[]] := rfl

theorem split_cons_separator (separator : Char) (rest : List Char) :
    split separator (separator :: rest) = [] :: split separator rest := by
  simp [split]

theorem split_cons_other {separator character : Char}
    (other : character ≠ separator) (rest : List Char) :
    ∃ item items, split separator rest = item :: items ∧
      split separator (character :: rest) =
        (character :: item) :: items := by
  cases equation : split separator rest with
  | nil => exact absurd equation (split_ne_nil separator rest)
  | cons item items =>
      refine ⟨item, items, rfl, ?_⟩
      have unfolded : split separator (character :: rest) =
          match split separator rest with
          | [] => [[character]]
          | item :: rest => (character :: item) :: rest := by
        simp [split, other]
      rw [unfolded, equation]

/-- Putting the separators back gives the text. -/
theorem join_split (separator : Char) (text : List Char) :
    join [separator] (split separator text) = text := by
  induction text with
  | nil => rfl
  | cons character rest ih =>
      by_cases same : character = separator
      · subst same
        rw [split_cons_separator]
        cases equation : split character rest with
        | nil => exact absurd equation (split_ne_nil character rest)
        | cons item items =>
            rw [equation] at ih
            simp [join, ih]
      · obtain ⟨item, items, cut, longer⟩ := split_cons_other same rest
        rw [longer]
        rw [cut] at ih
        cases items with
        | nil =>
            simp only [join] at ih ⊢
            rw [ih]
        | cons next more =>
            simp only [join, List.cons_append] at ih ⊢
            rw [ih]

/-- A text without the separator is one item. -/
theorem split_of_not_mem {separator : Char} {text : List Char}
    (absent : separator ∉ text) : split separator text = [text] := by
  induction text with
  | nil => rfl
  | cons character rest ih =>
      have other : character ≠ separator := by
        rintro rfl
        exact absent List.mem_cons_self
      obtain ⟨item, items, cut, longer⟩ := split_cons_other other rest
      rw [longer]
      rw [ih fun member => absent (List.mem_cons_of_mem _ member)] at cut
      cases cut
      rfl

/-- An item without the separator, followed by one, is the first item. -/
theorem split_append_separator {separator : Char} {item : List Char}
    (absent : separator ∉ item) (rest : List Char) :
    split separator (item ++ separator :: rest) =
      item :: split separator rest := by
  induction item with
  | nil => exact split_cons_separator separator rest
  | cons character tail ih =>
      have other : character ≠ separator := by
        rintro rfl
        exact absent List.mem_cons_self
      rw [List.cons_append]
      obtain ⟨first, items, cut, longer⟩ :=
        split_cons_other other (tail ++ separator :: rest)
      rw [longer]
      rw [ih fun member => absent (List.mem_cons_of_mem _ member)] at cut
      cases cut
      rfl

theorem splitOnce?_eq_some {separator : Char}
    {text before after : List Char}
    (cut : splitOnce? separator text = some (before, after)) :
    text = before ++ separator :: after ∧ separator ∉ before := by
  induction text generalizing before with
  | nil => simp [splitOnce?] at cut
  | cons character rest ih =>
      unfold splitOnce? at cut
      split at cut
      · next same =>
          cases cut
          simp [same]
      · next other =>
          obtain ⟨⟨head, tail⟩, inner, equal⟩ := Option.map_eq_some_iff.1 cut
          cases equal
          obtain ⟨whole, absent⟩ := ih inner
          refine ⟨by rw [whole]; rfl, ?_⟩
          simp only [List.mem_cons, not_or]
          exact ⟨fun equal => other equal.symm, absent⟩

theorem splitOnce?_append {separator : Char} {before : List Char}
    (absent : separator ∉ before) (after : List Char) :
    splitOnce? separator (before ++ separator :: after) =
      some (before, after) := by
  induction before with
  | nil => simp [splitOnce?]
  | cons character rest ih =>
      have other : character ≠ separator := by
        rintro rfl
        exact absent List.mem_cons_self
      have inner := ih fun member => absent (List.mem_cons_of_mem _ member)
      simp [splitOnce?, other, inner]

theorem splitOnce?_eq_none_iff {separator : Char} {text : List Char} :
    splitOnce? separator text = none ↔ separator ∉ text := by
  induction text with
  | nil => simp [splitOnce?]
  | cons character rest ih =>
      by_cases same : character = separator
      · simp [splitOnce?, same]
      · simp [splitOnce?, same, ih, Ne.symm (a := character) same]

theorem splitLast?_eq_some {separator : Char}
    {text before after : List Char}
    (cut : splitLast? separator text = some (before, after)) :
    text = before ++ separator :: after ∧ separator ∉ after := by
  unfold splitLast? at cut
  obtain ⟨⟨head, tail⟩, inner, equal⟩ := Option.map_eq_some_iff.1 cut
  cases equal
  obtain ⟨whole, absent⟩ := splitOnce?_eq_some inner
  refine ⟨?_, by simpa using absent⟩
  have back := congrArg List.reverse whole
  simpa using back

end Tunnel.Text
