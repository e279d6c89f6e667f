import Tunnel.Proofs.Config.FirstFault

/-!
# Edits that do not count

A document says the same after comments, blank lines, lines without an equals
sign and sections of other names were put in, and blanks around its lines and
around its equals signs changed.  An error stays the error it was, and its
line moves down with the lines that were put in above it.

Blanks are dealt with line by line: each line says what it said before
(`ofText_spaced`).  Lines that were put in are read, but what is read leaves
the lines below where they were (`Idle`), though a section of another name
closes the section at hand: the header below it would have done so anyway.
-/

namespace Tunnel.Config

/-! ## Lines and edits -/

/-- A line in brackets, blanks around it apart. -/
def IsHeaderLine (line : List Char) : Prop :=
  IsHeader (Text.trim line)

instance (line : List Char) : Decidable (IsHeaderLine line) :=
  inferInstanceAs (Decidable (IsHeader _))

/-- A header of a section that is neither the interface nor a peer. -/
def IsOtherHeader (line : List Char) : Prop :=
  IsHeaderLine line ∧
    (Text.trim line).tail.dropLast ∉ ["Interface".toList, "Peer".toList]

instance (line : List Char) : Decidable (IsOtherHeader line) :=
  inferInstanceAs (Decidable (_ ∧ _))

/-- Blanks only. -/
def IsBlank (text : List Char) : Prop :=
  ∀ character ∈ text, Text.isBlank character = true

instance (text : List Char) : Decidable (IsBlank text) :=
  List.decidableBAll _ text

/--
A blank line, a comment, or a line that is no header and has no equals sign.
-/
def SaysNothing (line : List Char) : Prop :=
  IsBlank line ∨ (Text.trimStart line).head? = some '#' ∨
    (Text.trimStart line).head? = some ';' ∨
    (¬ IsHeaderLine line ∧ '=' ∉ line)

instance (line : List Char) : Decidable (SaysNothing line) :=
  inferInstanceAs (Decidable (_ ∨ _))

/-- A text with a carriage return before each line feed. -/
def withReturns (text : List Char) : List Char :=
  text.flatMap fun character =>
    if character = '\n' then ['\r', '\n'] else [character]

/-- How many of the lines that were put in below some place are above a line. -/
def inserted (place count line : Nat) : Nat :=
  if line ≤ place then 0 else count

/--
One edit of a text.  The function tells for each line of the text how many
lines were put in above it.
-/
inductive Edit : String → String → (Nat → Nat) → Prop
  /-- A line that says nothing is put in, at any place. -/
  | addLine {text edited : String} {front back : List (List Char)}
      {line : List Char}
      (before : Text.lines text.toList = front ++ back)
      (after : Text.lines edited.toList = front ++ line :: back)
      (silent : SaysNothing line) :
      Edit text edited (inserted front.length 1)
  /-- A section of another name is put in above a header or at the end. -/
  | addSection {text edited : String} {front back body : List (List Char)}
      {header : List Char}
      (before : Text.lines text.toList = front ++ back)
      (after : Text.lines edited.toList = front ++ header :: body ++ back)
      (other : IsOtherHeader header)
      (plain : ∀ line ∈ body, ¬ IsHeaderLine line)
      (place : ∀ next ∈ back.head?, IsHeaderLine next) :
      Edit text edited (inserted front.length (body.length + 1))
  /-- Blanks are put in around a line. -/
  | addMargin {text edited : String} {front back : List (List Char)}
      {line left right : List Char}
      (before : Text.lines text.toList = front ++ line :: back)
      (after : Text.lines edited.toList =
        front ++ (left ++ line ++ right) :: back)
      (blankLeft : IsBlank left) (blankRight : IsBlank right) :
      Edit text edited fun _ => 0
  /-- Blanks are put in around the first equals sign of a line. -/
  | addSpace {text edited : String} {front back : List (List Char)}
      {key value left right : List Char}
      (before : Text.lines text.toList = front ++ (key ++ '=' :: value) :: back)
      (after : Text.lines edited.toList =
        front ++ (key ++ left ++ '=' :: (right ++ value)) :: back)
      (first : '=' ∉ key) (plain : ¬ IsHeaderLine (key ++ '=' :: value))
      (blankLeft : IsBlank left) (blankRight : IsBlank right) :
      Edit text edited fun _ => 0
  /-- Carriage returns are put in before all line feeds. -/
  | addReturns {text edited : String}
      (after : edited.toList = withReturns text.toList) :
      Edit text edited fun _ => 0

/-- Any edits, one after the other. -/
inductive Edits : String → String → (Nat → Nat) → Prop
  | nothing (text : String) : Edits text text fun _ => 0
  | more {text next edited : String} {first others : Nat → Nat}
      (edit : Edit text next first) (edits : Edits next edited others) :
      Edits text edited fun line => first line + others (line + first line)

/-! ## Lines that say nothing -/

/-- A line that is neither a remark nor a header is an entry, if it has a sign. -/
theorem Line.ofText_of_plain {line : List Char}
    (meant : Line.isRemark (Text.trim line) = false)
    (plain : ¬ IsHeaderLine line) :
    Line.ofText line =
      match entryOf? (Text.trim line) with
      | some own => Line.entry own.key own.value
      | none => Line.skipped := by
  rw [Line.ofText, ofTrimmed_eq_lineOf meant]
  exact if_neg plain

theorem Line.ofText_of_remark {line : List Char}
    (remark : Line.isRemark (Text.trim line) = true) :
    Line.ofText line = .skipped := by
  rw [Line.ofText, Line.ofTrimmed, remark]
  rfl

/-- A line in brackets is a header, since it is no remark. -/
theorem Line.ofText_of_header {line : List Char} (header : IsHeaderLine line) :
    Line.ofText line = .header (Text.trim line).tail.dropLast := by
  have meant : Line.isRemark (Text.trim line) = false := by
    refine isRemark_eq_false_iff.2 ⟨?_, ?_, ?_⟩
    · intro empty
      exact absurd header.2.1 (by rw [empty]; decide)
    · rw [header.2.1]
      decide
    · rw [header.2.1]
      decide
  rw [Line.ofText, ofTrimmed_eq_lineOf meant]
  exact if_pos header

theorem Line.ofText_ne_header {line : List Char} (plain : ¬ IsHeaderLine line)
    (name : List Char) : Line.ofText line ≠ .header name := by
  cases remark : Line.isRemark (Text.trim line) with
  | true =>
      rw [Line.ofText_of_remark remark]
      exact Line.noConfusion
  | false =>
      rw [Line.ofText_of_plain remark plain]
      cases entryOf? (Text.trim line) <;> exact Line.noConfusion

theorem Line.ofText_of_silent {line : List Char} (silent : SaysNothing line) :
    Line.ofText line = .skipped := by
  cases remark : Line.isRemark (Text.trim line) with
  | true => exact Line.ofText_of_remark remark
  | false =>
      have meant := isRemark_eq_false_iff.1 remark
      rw [Text.head?_trim] at meant
      rcases silent with blank | hash | semicolon | ⟨plain, absent⟩
      · have nothing := Text.trimStart_eq_nil_iff.2 blank
        exact absurd (by rw [Text.trim, nothing]; rfl) meant.1
      · exact absurd hash meant.2.1
      · exact absurd semicolon meant.2.2
      · have unmarked : entryOf? (Text.trim line) = none :=
          entryOf?_eq_none_iff.2 fun member =>
            absent (Text.mem_of_mem_trim member)
        rw [Line.ofText_of_plain remark plain, unmarked]

/-! ## Blanks within lines -/

theorem Line.ofText_margins {left right : List Char} (blankLeft : IsBlank left)
    (blankRight : IsBlank right) (line : List Char) :
    Line.ofText (left ++ line ++ right) = Line.ofText line :=
  congrArg Line.ofTrimmed (Text.trim_margins blankLeft blankRight line)

/-- The sides of an equals sign are trimmed by themselves, at one end each. -/
theorem trim_equals (key value : List Char) :
    Text.trim (key ++ '=' :: value) =
      Text.trimStart key ++ '=' :: Text.trimEnd value :=
  Text.trim_append_cons (by decide) key value

/-- The outer ends of a line with an equals sign tell if it is a header. -/
theorem isHeaderLine_equals_iff {key value : List Char} :
    IsHeaderLine (key ++ '=' :: value) ↔
      (Text.trimStart key).head? = some '[' ∧
        (Text.trimEnd value).getLast? = some ']' := by
  have last : ('=' :: Text.trimEnd value).getLast? = some ']' ↔
      (Text.trimEnd value).getLast? = some ']' := by
    rw [List.getLast?_cons]
    cases (Text.trimEnd value).getLast? <;> simp
  rw [IsHeaderLine, IsHeader, trim_equals,
    List.getLast?_append_of_ne_nil _ (List.cons_ne_nil _ _), last]
  cases Text.trimStart key with
  | nil => simp
  | cons first rest =>
      have long : 2 ≤ (first :: rest ++ '=' :: Text.trimEnd value).length := by
        rw [List.length_append, List.length_cons, List.length_cons]
        omega
      exact and_iff_right long

/-- A line with an equals sign that is no header is a comment or an entry. -/
theorem Line.ofText_equals {key value : List Char} (first : '=' ∉ key)
    (plain : ¬ IsHeaderLine (key ++ '=' :: value)) :
    Line.ofText (key ++ '=' :: value) =
      if (Text.trimStart key).head? = some '#' ∨
          (Text.trimStart key).head? = some ';' then .skipped
      else .entry (Text.trim key) (Text.trim value) := by
  have remark : Line.isRemark (Text.trim (key ++ '=' :: value)) = true ↔
      (Text.trimStart key).head? = some '#' ∨
        (Text.trimStart key).head? = some ';' := by
    rw [trim_equals]
    cases Text.trimStart key <;> simp [Line.isRemark]
  split
  · next comment => exact Line.ofText_of_remark (remark.2 comment)
  · next other =>
      have absent : '=' ∉ Text.trimStart key := fun member =>
        first ((List.dropWhile_sublist _).mem member)
      rw [Line.ofText_of_plain (Bool.not_eq_true _ ▸ mt remark.1 other) plain,
        trim_equals, entryOf?, Text.splitOnce?_append absent]
      simp

theorem head?_trimStart_append {margin : List Char} (blank : IsBlank margin)
    (text : List Char) :
    (Text.trimStart (text ++ margin)).head? = (Text.trimStart text).head? := by
  rw [Text.trimStart_append_blank blank]
  split
  · next gone => rw [gone]
  · next stays => exact List.head?_append_of_ne_nil _ stays

theorem getLast?_trimEnd_append {margin : List Char} (blank : IsBlank margin)
    (text : List Char) :
    (Text.trimEnd (margin ++ text)).getLast? = (Text.trimEnd text).getLast? := by
  have reversed : IsBlank margin.reverse := by simpa [IsBlank] using blank
  rw [Text.trimEnd, Text.trimEnd, List.getLast?_reverse, List.getLast?_reverse,
    List.reverse_append, head?_trimStart_append reversed]

/-- Blanks around the first equals sign of a line do not count. -/
theorem Line.ofText_spaced {key value left right : List Char}
    (first : '=' ∉ key) (plain : ¬ IsHeaderLine (key ++ '=' :: value))
    (blankLeft : IsBlank left) (blankRight : IsBlank right) :
    Line.ofText (key ++ left ++ '=' :: (right ++ value)) =
      Line.ofText (key ++ '=' :: value) := by
  have absent : '=' ∉ key ++ left := by
    intro member
    rcases List.mem_append.1 member with inKey | inLeft
    · exact first inKey
    · exact absurd (blankLeft '=' inLeft) (by decide)
  have plainSpaced :
      ¬ IsHeaderLine (key ++ left ++ '=' :: (right ++ value)) := by
    rw [isHeaderLine_equals_iff, head?_trimStart_append blankLeft,
      getLast?_trimEnd_append blankRight, ← isHeaderLine_equals_iff]
    exact plain
  have keyKept : Text.trim (key ++ left) = Text.trim key :=
    Text.trim_margins (List.forall_mem_nil _) blankLeft key
  have valueKept : Text.trim (right ++ value) = Text.trim value := by
    have kept := Text.trim_margins blankRight (List.forall_mem_nil _) value
    rwa [List.append_nil] at kept
  rw [Line.ofText_equals absent plainSpaced, Line.ofText_equals first plain,
    head?_trimStart_append blankLeft, keyKept, valueKept]

/-- Some lines have a carriage return at their end that the others lack. -/
theorem forall₂_split_withReturns (text : List Char) :
    List.Forall₂ (fun line edited => edited = line ∨ edited = line ++ ['\r'])
      (Text.split '\n' text) (Text.split '\n' (withReturns text)) := by
  induction text with
  | nil => exact List.Forall₂.cons (Or.inl rfl) List.Forall₂.nil
  | cons character rest ih =>
      by_cases newline : character = '\n'
      · subst newline
        have cut : Text.split '\n' (withReturns ('\n' :: rest)) =
            ['\r'] :: Text.split '\n' (withReturns rest) :=
          @Text.split_append_separator '\n' ['\r'] (by decide) _
        rw [Text.split_cons_separator, cut]
        exact List.Forall₂.cons (Or.inr rfl) ih
      · -- Neither text ends its first line here.
        have kept : withReturns (character :: rest) =
            character :: withReturns rest := by
          simp [withReturns, newline]
        obtain ⟨item, items, cut, longer⟩ :=
          Text.split_cons_other newline rest
        obtain ⟨edited, others, editedCut, editedLonger⟩ :=
          Text.split_cons_other newline (withReturns rest)
        rw [cut, editedCut] at ih
        rw [kept, longer, editedLonger]
        cases ih with
        | cons first below =>
            refine List.Forall₂.cons ?_ below
            rcases first with rfl | rfl
            · exact Or.inl rfl
            · exact Or.inr rfl

theorem sameLines_withReturns (text : List Char) :
    SameLines (Text.split '\n' (withReturns text)) (Text.split '\n' text) := by
  have lines := forall₂_split_withReturns text
  rw [SameLines]
  generalize Text.split '\n' text = items at lines ⊢
  generalize Text.split '\n' (withReturns text) = edited at lines ⊢
  induction lines with
  | nil => rfl
  | @cons line changed _ _ same _ ih =>
      have trimmed : Text.trim changed = Text.trim line := by
        rcases same with rfl | rfl
        · rfl
        · exact Text.trim_margins (List.forall_mem_nil _)
            (show IsBlank ['\r'] by decide) line
      rw [List.map_cons, List.map_cons, trimmed, ih]

/-! ## Lines that are put in -/

/-- Lines that leave what the lines below them come to. -/
def Idle (middle back : List Line) : Prop :=
  ∀ (draft : Draft) (number : Nat), ∃ next : Draft,
    draft.readAll number middle = .ok next ∧
      ∀ place, (next.readAll place back).map Draft.finish =
        (draft.readAll place back).map Draft.finish

theorem idle_skipped (back : List Line) : Idle [.skipped] back := by
  intro draft number
  exact ⟨draft, rfl, fun _ => rfl⟩

/-- In a section of another name nothing is read up to the next header. -/
theorem Draft.readAll_unknown {draft : Draft}
    (unknown : draft.current = .unknown) {body : List Line}
    (plain : ∀ line ∈ body, ∀ name, line ≠ .header name) (number : Nat) :
    draft.readAll number body = .ok draft := by
  apply Draft.readAll_of_kept
  intro line member
  cases line with
  | skipped => rfl
  | header name => exact absurd rfl (plain _ member name)
  | entry key value => rw [Draft.read, unknown]

theorem Section.named_of_other {name : List Char}
    (other : name ∉ ["Interface".toList, "Peer".toList]) :
    Section.named name = .unknown := by
  unfold Section.named
  split
  · next same =>
      refine absurd ?_ other
      rw [← String.toList_ofList (l := name), same]
      exact List.mem_cons_self
  · next same =>
      refine absurd ?_ other
      rw [← String.toList_ofList (l := name), same]
      exact List.mem_cons_of_mem _ List.mem_cons_self
  · rfl

/-- A section of another name closes the one at hand and reads nothing. -/
theorem idle_section {name : List Char} {body back : List Line}
    (other : Section.named name = .unknown)
    (plain : ∀ line ∈ body, ∀ name, line ≠ .header name)
    (place : ∀ line ∈ back.head?, ∃ name, line = .header name) :
    Idle (.header name :: body) back := by
  intro draft number
  let closed : Draft := { config := draft.finish, current := .unknown }
  refine ⟨closed, ?_, ?_⟩
  · rw [Draft.readAll, Draft.read, other]
    exact Draft.readAll_unknown rfl plain (number + 1)
  · intro line
    -- What is closed here would be closed by the header below, or by the end.
    cases back with
    | nil => rfl
    | cons first rest =>
        rcases place first rfl with ⟨name, rfl⟩
        rfl

/-- Idle lines move the errors below them down, and do nothing else. -/
theorem readAll_inserted {front middle back : List Line}
    (idle : Idle middle back) :
    (Draft.readAll {} 1 (front ++ middle ++ back)).map Draft.finish =
      ((Draft.readAll {} 1 (front ++ back)).map Draft.finish).mapError
        fun (line, fault) =>
          (line + inserted front.length middle.length line, fault) := by
  rw [List.append_assoc, Draft.readAll_append,
    Draft.readAll_append {} 1 front back]
  cases upper : Draft.readAll {} 1 front with
  | error stopped =>
      rcases stopped with ⟨line, fault⟩
      have bounds := Draft.line_of_readAll_eq_error upper
      have above : line ≤ front.length := by omega
      simp [Except.bind, Except.map, Except.mapError, inserted, above]
  | ok draft =>
      rcases idle draft (1 + front.length) with ⟨next, read, kept⟩
      simp only [Except.bind]
      rw [Draft.readAll_append, read]
      simp only [Except.bind]
      rw [kept, Draft.readAll_add]
      cases lower : draft.readAll (1 + front.length) back with
      | ok final => rfl
      | error stopped =>
          rcases stopped with ⟨line, fault⟩
          have bounds := Draft.line_of_readAll_eq_error lower
          have below : ¬ line ≤ front.length := by omega
          simp [Except.map, Except.mapError, inserted, below]

/-! ## Whole documents -/

theorem parseText_of_documentLines {text edited : List Char}
    (same : documentLines edited = documentLines text) :
    parseText edited = parseText text := by
  rw [parseText, parseText, same]

theorem parseText_withReturns (text : List Char) :
    parseText (withReturns text) = parseText text := by
  rw [parseText, parseText, ← readAll_split, ← readAll_split,
    (sameLines_withReturns text).map_ofText]

/-- A text whose lines have some lines more, which are idle. -/
theorem parseText_inserted {text edited : List Char}
    {front middle back : List (List Char)}
    (before : Text.lines text = front ++ back)
    (after : Text.lines edited = front ++ middle ++ back)
    (idle : Idle (middle.map Line.ofText) (back.map Line.ofText)) :
    parseText edited = (parseText text).mapError fun (line, fault) =>
      (line + inserted front.length middle.length line, fault) := by
  have moved := @readAll_inserted (front.map Line.ofText) _ _ idle
  rw [List.length_map, List.length_map, ← List.map_append, ← List.map_append,
    ← List.map_append, ← before, ← after] at moved
  exact moved

/-- One edit moves an error down and changes nothing else. -/
theorem parseText_edit {text edited : String} {above : Nat → Nat}
    (edit : Edit text edited above) :
    parseText edited.toList =
      (parseText text.toList).mapError fun (line, fault) =>
        (line + above line, fault) := by
  have unmoved : (parseText text.toList).mapError (fun (line, fault) =>
      (line + 0, fault)) = parseText text.toList := by
    cases parseText text.toList <;> rfl
  cases edit with
  | @addLine front back line before after silent =>
      apply @parseText_inserted _ _ front [line] back before
      · rw [after, List.append_assoc]
        rfl
      · rw [List.map_singleton, Line.ofText_of_silent silent]
        exact idle_skipped _
  | @addSection front back body header before after other plain place =>
      refine @parseText_inserted _ _ front (header :: body) back before after ?_
      rw [List.map_cons, Line.ofText_of_header other.1]
      apply idle_section
      · exact Section.named_of_other other.2
      · intro line member name
        rcases List.mem_map.1 member with ⟨own, inBody, rfl⟩
        exact Line.ofText_ne_header (plain own inBody) name
      · intro line first
        rw [List.head?_map] at first
        rcases Option.map_eq_some_iff.1 first with ⟨own, head, rfl⟩
        exact ⟨_, Line.ofText_of_header (place own head)⟩
  | addMargin before after blankLeft blankRight =>
      rw [unmoved]
      apply parseText_of_documentLines
      rw [documentLines, documentLines, before, after, List.map_append,
        List.map_append, List.map_cons, List.map_cons,
        Line.ofText_margins blankLeft blankRight]
  | addSpace before after first plain blankLeft blankRight =>
      rw [unmoved]
      apply parseText_of_documentLines
      rw [documentLines, documentLines, before, after, List.map_append,
        List.map_append, List.map_cons, List.map_cons,
        Line.ofText_spaced first plain blankLeft blankRight]
  | addReturns after =>
      rw [unmoved, after, parseText_withReturns]

theorem parseText_edits {text edited : String} {above : Nat → Nat}
    (edits : Edits text edited above) :
    parseText edited.toList =
      (parseText text.toList).mapError fun (line, fault) =>
        (line + above line, fault) := by
  induction edits with
  | nothing text => cases parseText text.toList <;> rfl
  | @more text _ _ _ _ edit _ ih =>
      rw [ih, parseText_edit edit]
      cases parseText text.toList with
      | ok config => rfl
      | error stopped => simp [Except.mapError, Nat.add_assoc]

/--
Edits that put in blanks, comments, lines and sections that say nothing leave
the configuration that a text describes.  A text that cannot be read has the
error it had, at the line that has moved down by the lines put in above it.
-/
theorem parse_edited {text edited : String} {above : Nat → Nat}
    (edits : Edits text edited above) :
    (∀ config, parse text = .ok config → parse edited = .ok config) ∧
      ∀ error, parse text = .error error →
        ∃ line message, error = .parse line message ∧
          parse edited = .error (.parse (line + above line) message) := by
  constructor
  · intro config read
    rw [parse, mapError_eq_ok_iff] at read ⊢
    rw [parseText_edits edits, read]
    rfl
  · intro error failed
    rcases parse_eq_error_iff.1 failed with ⟨line, fault, rfl, stopped⟩
    refine ⟨line, fault.message, rfl, ?_⟩
    rw [parse, parseText_edits edits, parseText, stopped]
    rfl

/--
A peer with a bad endpoint on the fourth line.  A section of another name above
the peer, blanks around its equals sign, a comment at the top and carriage
returns move the error to the seventh line.
-/
theorem parse_edited_badEndpoint :
    let text := "[Interface]\nListenPort=5\n[Peer]\nEndpoint=here\n"
    let edited :=
      " ; [Peer]\r\n[Interface]\r\nListenPort=5\r\n\t[Note]\r\n" ++
        "ListenPort=x\r\n[Peer]\r\nEndpoint\t= here\r\n"
    parse text = .error (.parse 4 "invalid endpoint 'here'") ∧
      parse edited = .error (.parse 7 "invalid endpoint 'here'") := by
  intro text edited
  let upper := "[Interface]\nListenPort=5\n"
  let lower := "[Peer]\nEndpoint=here\n"
  let parted := upper ++ "\t[Note]\nListenPort=x\n" ++ lower
  let spaced := upper ++ "\t[Note]\nListenPort=x\n[Peer]\nEndpoint\t= here\n"
  let remarked := " ; [Peer]\n" ++ spaced
  have note := @Edit.addSection text parted (Text.lines upper.toList)
    (Text.lines lower.toList) ["ListenPort=x".toList] "\t[Note]".toList
    (by decide) (by decide) (by decide) (by decide) (by decide)
  have space := @Edit.addSpace parted spaced
    ((Text.lines parted.toList).take 5) [] "Endpoint".toList "here".toList
    "\t".toList " ".toList
    (by decide) (by decide) (by decide) (by decide) (by decide) (by decide)
  have remark := @Edit.addLine spaced remarked [] (Text.lines spaced.toList)
    " ; [Peer]".toList rfl (by decide +kernel) (by decide)
  have returns := @Edit.addReturns remarked edited (by decide +kernel)
  have edits := Edits.more note (Edits.more space
    (Edits.more remark (Edits.more returns (Edits.nothing edited))))
  have failed :
      parse text = .error (.parse 4 "invalid endpoint 'here'") := by decide
  rcases (parse_edited edits).2 _ failed with ⟨line, message, same, moved⟩
  cases same
  exact ⟨failed, moved.trans (by decide)⟩

end Tunnel.Config
