import Tunnel.Proofs.Config.Append

/-!
# The first line that cannot be read

The reader goes over the lines from the top and stops at the first one that it
cannot read, in the section that the lines above have opened.  So an error
tells of the lines up to its own and of nothing below: the lines above can be
read without it (`Draft.readAll_eq_error_iff`), and every document that begins
with the same lines has the same error.
-/

namespace Tunnel.Config

/-! ## Where reading stops -/

/-- Reading stops at a line that the draft of the lines above cannot take. -/
theorem Draft.readAll_eq_error_iff {draft : Draft} {number line : Nat}
    {fault : Fault} {lines : List Line} :
    draft.readAll number lines = .error (line, fault) ↔
      ∃ above bad below next,
        lines = above ++ bad :: below ∧ line = number + above.length ∧
          draft.readAll number above = .ok next ∧
          next.read bad = .error fault := by
  constructor
  · intro stopped
    induction lines generalizing draft number with
    | nil => cases stopped
    | cons first rest ih =>
        rw [Draft.readAll] at stopped
        cases step : draft.read first with
        | error own =>
            rw [step] at stopped
            cases stopped
            exact ⟨[], first, rest, draft, rfl, rfl, rfl, step⟩
        | ok next =>
            rw [step] at stopped
            rcases ih stopped with
              ⟨above, bad, below, last, whole, place, read, unread⟩
            refine ⟨first :: above, bad, below, last, ?_, ?_, ?_, unread⟩
            · rw [whole, List.cons_append]
            · rw [place, List.length_cons]
              omega
            · rw [Draft.readAll, step]
              exact read
  · rintro ⟨above, bad, below, next, rfl, rfl, read, unread⟩
    rw [Draft.readAll_append, read]
    simp only [Except.bind, Draft.readAll, unread]

/-- An error names one of the lines. -/
theorem Draft.line_of_readAll_eq_error {draft : Draft} {number line : Nat}
    {fault : Fault} {lines : List Line}
    (stopped : draft.readAll number lines = .error (line, fault)) :
    number ≤ line ∧ line < number + lines.length := by
  rcases Draft.readAll_eq_error_iff.1 stopped with
    ⟨above, bad, below, next, rfl, rfl, -, -⟩
  rw [List.length_append, List.length_cons]
  omega

/-! ## Lines without their blanks -/

/-- Lines that differ in the blanks around them at most. -/
def SameLines (left right : List (List Char)) : Prop :=
  left.map Text.trim = right.map Text.trim

instance (left right : List (List Char)) : Decidable (SameLines left right) :=
  inferInstanceAs (Decidable (_ = _))

/-- Blanks around lines do not count for what the lines say. -/
theorem SameLines.map_ofText {left right : List (List Char)}
    (same : SameLines left right) :
    left.map Line.ofText = right.map Line.ofText := by
  have trimmed : ∀ lines : List (List Char), lines.map Line.ofText =
      (lines.map Text.trim).map Line.ofTrimmed := by
    intro lines
    rw [List.map_map]
    rfl
  rw [trimmed left, trimmed right, same]

/-- A document can be written for any lines of another one. -/
theorem exists_lines_eq_take (text : String) (count : Nat) :
    ∃ front : String, Text.lines front.toList =
      (Text.lines text.toList).take count := by
  have single : ∀ line ∈ (Text.lines text.toList).take count,
      '\n' ∉ line := by
    intro line member
    have inLines := List.mem_of_mem_take member
    apply @Text.not_mem_of_mem_split '\n' text.toList
    rcases Text.split_eq_lines_append text.toList with same | longer
    · rw [same]
      exact inLines
    · rw [longer]
      exact List.mem_append_left _ inLines
  refine ⟨String.ofList
    (((Text.lines text.toList).take count).flatMap (· ++ ['\n'])), ?_⟩
  rw [String.toList_ofList, Text.lines_flatMap single]

/-! ## Whole documents -/

theorem parse_eq_error_iff {text : String} {error : Error} :
    parse text = .error error ↔
      ∃ line fault, error = .parse line fault.message ∧
        Draft.readAll {} 1 (documentLines text.toList) =
          .error (line, fault) := by
  rw [parse, parseText]
  cases Draft.readAll {} 1 (documentLines text.toList) with
  | ok draft => simp [Except.map, Except.mapError]
  | error stopped =>
      rcases stopped with ⟨line, fault⟩
      constructor
      · intro failed
        cases failed
        exact ⟨line, fault, rfl, rfl⟩
      · rintro ⟨_, _, rfl, same⟩
        cases same
        rfl

theorem exists_parse_eq_ok_iff {text : String} :
    (∃ config, parse text = .ok config) ↔
      ∃ draft, Draft.readAll {} 1 (documentLines text.toList) =
        .ok draft := by
  simp only [parse, mapError_eq_ok_iff, parseText, map_eq_ok_iff]
  constructor
  · rintro ⟨_, draft, read, -⟩
    exact ⟨draft, read⟩
  · rintro ⟨draft, read⟩
    exact ⟨draft.finish, draft, read, rfl⟩

/--
A text that cannot be read has an error at one of its lines.  The lines above
can be read, and every text that begins with the same lines down to this one
has the same error, whatever follows; blanks around lines do not count.
-/
theorem parse_fails_first (text : String) (error : Error)
    (failed : parse text = .error error) :
    ∃ line message,
      error = .parse line message ∧
        1 ≤ line ∧ line ≤ (Text.lines text.toList).length ∧
        (∃ above : String, Text.lines above.toList =
          (Text.lines text.toList).take (line - 1)) ∧
        (∀ above : String,
          SameLines (Text.lines above.toList)
              ((Text.lines text.toList).take (line - 1)) →
            ∃ config, parse above = .ok config) ∧
        ∀ other : String,
          SameLines ((Text.lines other.toList).take line)
              ((Text.lines text.toList).take line) →
            parse other = .error (.parse line message) := by
  rcases parse_eq_error_iff.1 failed with ⟨line, fault, rfl, stopped⟩
  rcases Draft.readAll_eq_error_iff.1 stopped with
    ⟨above, bad, below, next, whole, rfl, read, unread⟩
  have bounds := Draft.line_of_readAll_eq_error stopped
  rw [documentLines, List.length_map] at bounds
  have shorter : 1 + above.length - 1 = above.length :=
    Nat.add_sub_cancel_left 1 _
  refine ⟨1 + above.length, fault.message, rfl, bounds.1, by omega,
    exists_lines_eq_take text _, ?_, ?_⟩
  · intro front same
    have lines := same.map_ofText
    rw [List.map_take, shorter] at lines
    have own : documentLines front.toList = above := by
      rw [documentLines, lines]
      change (documentLines text.toList).take above.length = above
      rw [whole, List.take_left]
    exact exists_parse_eq_ok_iff.2 ⟨next, by rw [own]; exact read⟩
  · intro other same
    have lines := same.map_ofText
    rw [List.map_take, List.map_take] at lines
    change (documentLines other.toList).take _ =
      (documentLines text.toList).take _ at lines
    have front : (documentLines text.toList).take (1 + above.length) =
        above ++ [bad] := by
      rw [whole, Nat.add_comm, List.take_length_add_append]
      rfl
    have parts := List.take_append_drop (1 + above.length)
      (documentLines other.toList)
    rw [lines, front, List.append_assoc, List.singleton_append] at parts
    exact parse_eq_error_iff.2 ⟨_, fault, rfl,
      Draft.readAll_eq_error_iff.2
        ⟨above, bad, _, next, parts.symm, rfl, read, unread⟩⟩

/--
The fourth line is at fault, and the fifth would be.  The peer above it is
read without them, and the fault is the same with a carriage return or two and
with another document below.
-/
theorem parse_fails_first_address :
    let text :=
      "[Peer]\nEndpoint = 0.0.0.0:5\n[Interface]\nAddress = x/8\nListenPort = y"
    let above := "[Peer]\nEndpoint = 0.0.0.0:5\r\n[Interface]"
    let other := above ++ "\r\n\tAddress = x/8\nListenPort = 5\n[Peer]"
    parse text = .error (.parse 4 "invalid address 'x'") ∧
      (∃ config, parse above = .ok config) ∧
      parse other = .error (.parse 4 "invalid address 'x'") := by
  intro text above other
  have failed : parse text = .error (.parse 4 "invalid address 'x'") := by
    decide
  rcases parse_fails_first text _ failed with
    ⟨line, message, error, -, -, -, readable, fails⟩
  cases error
  exact ⟨failed, readable above (by decide), fails other (by decide)⟩

end Tunnel.Config
