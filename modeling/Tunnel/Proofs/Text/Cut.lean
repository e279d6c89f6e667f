import Mathlib.Data.List.Basic
import Mathlib.Data.List.TakeWhile
import Tunnel.Text.Basic

/-!
# What was put together is cut apart

Items without a separator are given back when their joined text is split, a
document gives its lines back, and blanks around a text that neither starts nor
ends with one are what trimming removes.
-/

namespace Tunnel.Text

/-! ## Joined items -/

theorem join_cons_cons (separator first second : List Char)
    (rest : List (List Char)) :
    join separator (first :: second :: rest) =
      first ++ separator ++ join separator (second :: rest) :=
  rfl

/-- Joined items start with the first item. -/
theorem exists_join_eq (separator first : List Char)
    (rest : List (List Char)) :
    ∃ tail, join separator (first :: rest) = first ++ tail := by
  cases rest with
  | nil => exact ⟨[], (List.append_nil first).symm⟩
  | cons second more =>
      exact ⟨separator ++ join separator (second :: more),
        List.append_assoc first separator _⟩

/-- A character of joined items stands in the separator or in an item. -/
theorem mem_join {separator : List Char} {items : List (List Char)}
    {character : Char} (member : character ∈ join separator items) :
    character ∈ separator ∨ ∃ item ∈ items, character ∈ item := by
  induction items with
  | nil => simp [join] at member
  | cons first rest ih =>
      cases rest with
      | nil => exact Or.inr ⟨first, List.mem_cons_self, member⟩
      | cons second more =>
          rw [join_cons_cons] at member
          rcases List.mem_append.1 member with front | back
          · rcases List.mem_append.1 front with inFirst | inSeparator
            · exact Or.inr ⟨first, List.mem_cons_self, inFirst⟩
            · exact Or.inl inSeparator
          · rcases ih back with inSeparator | ⟨item, inRest, inItem⟩
            · exact Or.inl inSeparator
            · exact Or.inr ⟨item, List.mem_cons_of_mem _ inRest, inItem⟩

/-- Every character of a split text is the separator or stands in an item. -/
theorem mem_of_split {separator : Char} {text : List Char}
    {character : Char} (member : character ∈ text) :
    character = separator ∨
      ∃ item ∈ split separator text, character ∈ item := by
  rw [← join_split separator text] at member
  simpa using mem_join member

/-- Items are split again when a separator with blanks stood between them. -/
theorem split_join_append {separator : Char} {padding first : List Char}
    {rest : List (List Char)}
    (padded : separator ∉ padding)
    (absent : ∀ item ∈ first :: rest, separator ∉ item) :
    split separator (join (separator :: padding) (first :: rest)) =
      first :: rest.map (padding ++ ·) := by
  induction rest generalizing first with
  | nil => exact split_of_not_mem (absent first List.mem_cons_self)
  | cons second more ih =>
      have inFirst := absent first List.mem_cons_self
      have others : ∀ item ∈ (padding ++ second) :: more,
          separator ∉ item := by
        rintro item (_ | ⟨_, member⟩)
        · simpa [padded] using absent second (by simp)
        · exact absent item
            (List.mem_cons_of_mem _ (List.mem_cons_of_mem _ member))
      have moved :
          padding ++ join (separator :: padding) (second :: more) =
            join (separator :: padding) ((padding ++ second) :: more) := by
        cases more <;> simp [join]
      rw [join_cons_cons, List.append_assoc, List.cons_append,
        split_append_separator inFirst, moved, ih others, List.map_cons]

theorem split_join {separator : Char} {items : List (List Char)}
    (some : items ≠ [])
    (absent : ∀ item ∈ items, separator ∉ item) :
    split separator (join [separator] items) = items := by
  cases items with
  | nil => exact absurd rfl some
  | cons first rest =>
      have whole := split_join_append (List.not_mem_nil) absent
      simpa using whole

/-- No item of a split text has the separator. -/
theorem not_mem_of_mem_split {separator : Char} {text item : List Char}
    (member : item ∈ split separator text) : separator ∉ item := by
  induction text generalizing item with
  | nil =>
      rw [split_nil, List.mem_singleton] at member
      rw [member]
      exact List.not_mem_nil
  | cons character rest ih =>
      by_cases same : character = separator
      · rw [same, split_cons_separator] at member
        rcases List.mem_cons.1 member with rfl | inRest
        · exact List.not_mem_nil
        · exact ih inRest
      · obtain ⟨first, others, cut, longer⟩ := split_cons_other same rest
        rw [longer] at member
        rw [cut] at ih
        rcases List.mem_cons.1 member with rfl | inOthers
        · have absent := ih List.mem_cons_self
          simp [Ne.symm same, absent]
        · exact ih (List.mem_cons_of_mem _ inOthers)

/-- An empty last item ends the joined text with a separator. -/
theorem join_append_nil (separator : List Char) {items : List (List Char)}
    (some : items ≠ []) :
    join separator (items ++ [[]]) = join separator items ++ separator := by
  induction items with
  | nil => exact absurd rfl some
  | cons first rest ih =>
      cases rest with
      | nil => simp [join]
      | cons second more =>
          have others := ih (by simp)
          rw [List.cons_append, List.cons_append, join_cons_cons,
            ← List.cons_append, others, join_cons_cons]
          simp

theorem splitLast?_append {separator : Char} {after : List Char}
    (absent : separator ∉ after) (before : List Char) :
    splitLast? separator (before ++ separator :: after) =
      some (before, after) := by
  have reversed : (before ++ separator :: after).reverse =
      after.reverse ++ separator :: before.reverse := by
    simp
  rw [splitLast?, reversed, splitOnce?_append (by simpa using absent)]
  simp

/-! ## Lines -/

theorem split_append_lines {separator : Char} {items : List (List Char)}
    (absent : ∀ item ∈ items, separator ∉ item) (rest : List Char) :
    split separator (items.flatMap (· ++ [separator]) ++ rest) =
      items ++ split separator rest := by
  induction items with
  | nil => rfl
  | cons item items ih =>
      have others := ih fun other member =>
        absent other (List.mem_cons_of_mem _ member)
      rw [List.flatMap_cons, List.append_assoc, List.append_assoc,
        List.singleton_append,
        split_append_separator (absent item List.mem_cons_self), others]
      rfl

/-- Around a separator both sides are split by themselves. -/
theorem split_append (separator : Char) (front back : List Char) :
    split separator (front ++ separator :: back) =
      split separator front ++ split separator back := by
  induction front with
  | nil => exact split_cons_separator separator back
  | cons character rest ih =>
      by_cases same : character = separator
      · subst same
        rw [List.cons_append, split_cons_separator, split_cons_separator, ih]
        rfl
      · obtain ⟨item, items, cut, longer⟩ := split_cons_other same rest
        obtain ⟨first, others, cutBoth, longerBoth⟩ :=
          split_cons_other same (rest ++ separator :: back)
        rw [ih, cut, List.cons_append] at cutBoth
        cases cutBoth
        rw [List.cons_append, longerBoth, longer]
        rfl

theorem length_split (separator : Char) (text : List Char) :
    (split separator text).length = text.count separator + 1 := by
  induction text with
  | nil => rfl
  | cons character rest ih =>
      by_cases same : character = separator
      · subst same
        rw [split_cons_separator, List.length_cons, ih, List.count_cons_self]
      · obtain ⟨item, items, cut, longer⟩ := split_cons_other same rest
        rw [cut] at ih
        rw [longer, List.count_cons_of_ne same]
        exact ih

theorem lines_eq_ite (text : List Char) :
    lines text =
      if (split '\n' text).getLast? = some [] then
        (split '\n' text).dropLast
      else split '\n' text :=
  rfl

/-- An empty last item is no line. -/
theorem split_eq_lines_append (text : List Char) :
    split '\n' text = lines text ∨ split '\n' text = lines text ++ [[]] := by
  by_cases last : (split '\n' text).getLast? = some []
  · obtain ⟨items, whole⟩ := List.getLast?_eq_some_iff.1 last
    rw [lines_eq_ite, if_pos last, whole, List.dropLast_concat]
    exact Or.inr rfl
  · rw [lines_eq_ite, if_neg last]
    exact Or.inl rfl

/-- The lines of a text that has another one below it. -/
theorem lines_append (front back : List Char) :
    lines (front ++ '\n' :: back) = split '\n' front ++ lines back := by
  have filled := split_ne_nil '\n' back
  rw [lines_eq_ite, lines_eq_ite back, split_append,
    List.getLast?_append_of_ne_nil _ filled]
  split
  · exact List.dropLast_append_of_ne_nil filled
  · rfl

/-- Lines that were ended by line feeds are the lines of the text. -/
theorem lines_flatMap {items : List (List Char)}
    (absent : ∀ item ∈ items, '\n' ∉ item) :
    lines (items.flatMap (· ++ ['\n'])) = items := by
  have cut := split_append_lines absent []
  rw [List.append_nil, split_nil] at cut
  simp [lines, cut]

/-! ## Blank margins -/

/-- A text that neither starts nor ends with a blank. -/
structure Tight (text : List Char) : Prop where
  first : ∀ character ∈ text.head?, isBlank character = false
  last : ∀ character ∈ text.getLast?, isBlank character = false

theorem trimStart_of_head {text : List Char}
    (first : ∀ character ∈ text.head?, isBlank character = false) :
    trimStart text = text := by
  cases text with
  | nil => rfl
  | cons character rest =>
      simp [trimStart, first character rfl]

theorem trimEnd_of_last {text : List Char}
    (last : ∀ character ∈ text.getLast?, isBlank character = false) :
    trimEnd text = text := by
  rw [trimEnd, trimStart_of_head (by simpa using last)]
  exact List.reverse_reverse text

/-- A text without blanks around it is what trimming leaves. -/
theorem trim_of_tight {text : List Char} (tight : Tight text) :
    trim text = text := by
  rw [trim, trimStart_of_head tight.first, trimEnd_of_last tight.last]

theorem trimStart_append {margin : List Char}
    (blank : ∀ character ∈ margin, isBlank character = true)
    (text : List Char) :
    trimStart (margin ++ text) = trimStart text := by
  induction margin with
  | nil => rfl
  | cons character rest ih =>
      have others := ih fun other member =>
        blank other (List.mem_cons_of_mem _ member)
      simpa [trimStart, blank character List.mem_cons_self] using others

theorem blank_space : ∀ character ∈ [' '], isBlank character = true := by
  intro character member
  rw [List.mem_singleton.1 member]
  decide

theorem trimEnd_append {margin : List Char}
    (blank : ∀ character ∈ margin, isBlank character = true)
    (text : List Char) :
    trimEnd (text ++ margin) = trimEnd text := by
  rw [trimEnd, List.reverse_append, trimStart_append (by simpa using blank),
    trimEnd]

/-- Nothing is left of blanks, and of nothing else. -/
theorem trimStart_eq_nil_iff {text : List Char} :
    trimStart text = [] ↔ ∀ character ∈ text, isBlank character = true :=
  List.dropWhile_eq_nil_iff

/-- Blanks behind a text stay there, unless nothing is left of the text. -/
theorem trimStart_append_blank {margin : List Char}
    (blank : ∀ character ∈ margin, isBlank character = true)
    (text : List Char) :
    trimStart (text ++ margin) =
      if trimStart text = [] then [] else trimStart text ++ margin := by
  have gone : margin.dropWhile isBlank = [] := trimStart_eq_nil_iff.2 blank
  simp [trimStart, List.dropWhile_append, gone]

/-- Blanks around a text do not count. -/
theorem trim_margins {left right : List Char}
    (blankLeft : ∀ character ∈ left, isBlank character = true)
    (blankRight : ∀ character ∈ right, isBlank character = true)
    (text : List Char) : trim (left ++ text ++ right) = trim text := by
  rw [trim, List.append_assoc, trimStart_append blankLeft,
    trimStart_append_blank blankRight]
  split
  · next gone => rw [trim, gone]
  · rw [trimEnd_append blankRight, trim]

/-- Trimming at one end stops at a character that is no blank. -/
theorem trimStart_append_cons {character : Char}
    (visible : isBlank character = false) (front back : List Char) :
    trimStart (front ++ character :: back) =
      trimStart front ++ character :: back := by
  have stays : (character :: back).dropWhile isBlank = character :: back :=
    List.dropWhile_cons_of_neg (by rw [visible]; decide)
  rw [trimStart, List.dropWhile_append, stays]
  split
  · next gone =>
      rw [trimStart, List.isEmpty_iff.1 gone]
      rfl
  · rfl

theorem trimEnd_append_cons {character : Char}
    (visible : isBlank character = false) (front back : List Char) :
    trimEnd (front ++ character :: back) =
      front ++ character :: trimEnd back := by
  have reversed : (front ++ character :: back).reverse =
      back.reverse ++ character :: front.reverse := by
    simp
  rw [trimEnd, reversed, trimStart_append_cons visible, trimEnd]
  simp

/-- Each end is trimmed by itself around a character that is no blank. -/
theorem trim_append_cons {character : Char}
    (visible : isBlank character = false) (front back : List Char) :
    trim (front ++ character :: back) =
      trimStart front ++ character :: trimEnd back := by
  rw [trim, trimStart_append_cons visible, trimEnd_append_cons visible]

/-- What trimming removes are blanks. -/
theorem exists_blank_append_trimStart (text : List Char) :
    ∃ margin, (∀ character ∈ margin, isBlank character = true) ∧
      text = margin ++ trimStart text :=
  ⟨text.takeWhile isBlank, fun _ member => List.mem_takeWhile_imp member,
    List.takeWhile_append_dropWhile.symm⟩

theorem exists_trimEnd_append_blank (text : List Char) :
    ∃ margin, (∀ character ∈ margin, isBlank character = true) ∧
      text = trimEnd text ++ margin := by
  rcases exists_blank_append_trimStart text.reverse with
    ⟨margin, blank, reversed⟩
  refine ⟨margin.reverse, by simpa using blank, ?_⟩
  simpa [trimEnd] using congrArg List.reverse reversed

@[simp]
theorem trim_trimStart (text : List Char) :
    trim (trimStart text) = trim text := by
  rcases exists_blank_append_trimStart text with ⟨margin, blank, whole⟩
  have removed := trim_margins blank (List.forall_mem_nil _) (trimStart text)
  rw [List.append_nil, ← whole] at removed
  exact removed.symm

@[simp]
theorem trim_trimEnd (text : List Char) :
    trim (trimEnd text) = trim text := by
  rcases exists_trimEnd_append_blank text with ⟨margin, blank, whole⟩
  have removed := trim_margins (List.forall_mem_nil _) blank (trimEnd text)
  rw [List.nil_append, ← whole] at removed
  exact removed.symm

theorem mem_of_mem_trim {text : List Char} {character : Char}
    (member : character ∈ trim text) : character ∈ text := by
  rcases exists_blank_append_trimStart text with ⟨_, -, whole⟩
  rcases exists_trimEnd_append_blank (trimStart text) with ⟨_, -, inner⟩
  rw [whole, inner]
  exact List.mem_append_right _ (List.mem_append_left _ member)

/-- Trimming at the end leaves the first character that is no blank. -/
theorem head?_trim (text : List Char) :
    (trim text).head? = (trimStart text).head? := by
  cases start : trimStart text with
  | nil => rw [trim, start]; rfl
  | cons first rest =>
      have visible : isBlank first = false := by
        have stopped := List.head?_dropWhile_not isBlank text
        rw [← trimStart, start] at stopped
        simpa using stopped
      have ended := trimEnd_append_cons visible [] rest
      rw [List.nil_append] at ended
      rw [trim, start, ended]
      rfl

/-- Two texts without blanks around them may have any text between them. -/
theorem Tight.around {front back : List Char} (tightFront : Tight front)
    (someFront : front ≠ []) (middle : List Char) (tightBack : Tight back)
    (someBack : back ≠ []) : Tight (front ++ middle ++ back) where
  first := by
    rw [List.append_assoc, List.head?_append_of_ne_nil _ someFront]
    exact tightFront.first
  last := by
    rw [List.getLast?_append_of_ne_nil _ someBack]
    exact tightBack.last

theorem join_ne_nil {separator first : List Char} (some : first ≠ [])
    (rest : List (List Char)) : join separator (first :: rest) ≠ [] := by
  obtain ⟨tail, whole⟩ := exists_join_eq separator first rest
  rw [whole]
  exact List.append_ne_nil_of_left_ne_nil some tail

theorem tight_join (separator : List Char) {items : List (List Char)}
    (some : ∀ item ∈ items, item ≠ [])
    (tight : ∀ item ∈ items, Tight item) : Tight (join separator items) := by
  induction items with
  | nil => exact ⟨by simp [join], by simp [join]⟩
  | cons first rest ih =>
      have tightFirst := tight first List.mem_cons_self
      cases rest with
      | nil => exact tightFirst
      | cons second more =>
          have others := ih
            (fun item member => some item (List.mem_cons_of_mem _ member))
            (fun item member => tight item (List.mem_cons_of_mem _ member))
          exact tightFirst.around (some first List.mem_cons_self) separator
            others (join_ne_nil (some second (by simp)) more)

/-- No visible ASCII character is blank. -/
theorem not_blank_of_code {character : Char} (above : 32 < character.toNat)
    (below : character.toNat < 127) : isBlank character = false := by
  simp [isBlank]
  omega

/-- A text without any blank. -/
def Solid (text : List Char) : Prop :=
  ∀ character ∈ text, isBlank character = false

theorem Solid.tight {text : List Char} (solid : Solid text) :
    Tight text where
  first := fun character member =>
    solid character (List.mem_of_mem_head? member)
  last := fun character member =>
    solid character (List.mem_of_mem_getLast? member)

theorem Solid.append {front back : List Char} (solidFront : Solid front)
    (solidBack : Solid back) : Solid (front ++ back) := by
  intro character member
  rcases List.mem_append.1 member with inFront | inBack
  · exact solidFront character inFront
  · exact solidBack character inBack

theorem Solid.cons {character : Char} {rest : List Char}
    (solid : isBlank character = false) (solidRest : Solid rest) :
    Solid (character :: rest) := by
  intro other member
  rcases List.mem_cons.1 member with rfl | inRest
  · exact solid
  · exact solidRest other inRest

theorem Solid.newline_not_mem {text : List Char} (solid : Solid text) :
    '\n' ∉ text := by
  intro newline
  exact absurd (solid '\n' newline) (by decide)

end Tunnel.Text
