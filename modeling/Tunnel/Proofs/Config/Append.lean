import Tunnel.Proofs.Config.Meaning
import Tunnel.Proofs.Text.Cut

/-!
# Documents one below the other

A document may be written below another one.  If every entry of the lower
document stands below a header of its own, both are read as if they stood
alone: the lower one adds to what the upper one has set, and an error in it
names its line further down.

The reader does not start afresh at the lower document, since a section of the
upper one may still be open there.  `readAll_selfContained` says that this
makes no difference: the first header closes that section, and from then on
the reader is in step with one that starts at the lower document, except that
its configuration stands on that of the upper document (`Draft.on`).
-/

namespace Tunnel

/-- An error in a document that has some count of lines above it. -/
def Error.lowered (count : Nat) : Error → Error
  | .parse line message => .parse (line + count) message
  | error => error

namespace Config

/-! ## Merging -/

/-- An interface whose fields a later one overrides and whose list it extends. -/
def Interface.merge (earlier later : Interface) : Interface where
  privateKey := later.privateKey.or earlier.privateKey
  publicKey := later.publicKey.or earlier.publicKey
  listenPort := later.listenPort.or earlier.listenPort
  addresses := earlier.addresses ++ later.addresses

/-- A configuration with the interface and the peers of a later one. -/
def merge (earlier later : Config) : Config where
  interface := earlier.interface.merge later.interface
  peers := earlier.peers ++ later.peers

@[simp]
theorem merge_empty (config : Config) : config.merge {} = config := by
  simp [merge, Interface.merge]

/-- An entry sets a field of the later interface, whatever came earlier. -/
theorem Interface.set_merge (earlier later : Interface)
    (key value : List Char) :
    (earlier.merge later).set key value =
      (later.set key value).map earlier.merge := by
  unfold Interface.set
  split
  · cases keyValue value <;> rfl
  · cases keyValue value <;> rfl
  · cases numberValue key value <;> rfl
  · cases networksValue value with
    | error fault => rfl
    | ok networks =>
        simp [Except.map, Interface.merge, List.append_assoc]
  · rfl

/-! ## Sections that stand on others -/

/-- What has been read, with another configuration above it. -/
def Draft.on (base : Config) (draft : Draft) : Draft :=
  { draft with config := base.merge draft.config }

theorem Draft.finish_on (base : Config) (draft : Draft) :
    (draft.on base).finish = base.merge draft.finish := by
  rcases draft with ⟨config, current⟩
  cases current with
  | peer peer => simp [Draft.on, Draft.finish, merge]
  | outside => rfl
  | interface => rfl
  | unknown => rfl

theorem Draft.read_on (base : Config) (draft : Draft) (line : Line) :
    (draft.on base).read line = (draft.read line).map (Draft.on base) := by
  cases line with
  | skipped => rfl
  | header name =>
      simp only [Draft.read, Draft.finish_on]
      rfl
  | entry key value =>
      rcases draft with ⟨config, current⟩
      cases current with
      | outside => rfl
      | unknown => rfl
      | interface =>
          simp only [Draft.on, Draft.read, merge, Interface.set_merge]
          cases config.interface.set key value <;> rfl
      | peer peer =>
          simp only [Draft.on, Draft.read]
          cases peer.set key value <;> rfl

theorem Draft.readAll_on (base : Config) (draft : Draft) (number : Nat)
    (lines : List Line) :
    (draft.on base).readAll number lines =
      (draft.readAll number lines).map (Draft.on base) := by
  induction lines generalizing draft number with
  | nil => rfl
  | cons line rest ih =>
      rw [Draft.readAll, Draft.readAll, Draft.read_on]
      cases draft.read line with
      | error fault => rfl
      | ok next => exact ih next (number + 1)

/-! ## Lines one below the other -/

theorem Draft.readAll_append (draft : Draft) (number : Nat)
    (front back : List Line) :
    draft.readAll number (front ++ back) =
      (draft.readAll number front).bind fun next =>
        next.readAll (number + front.length) back := by
  induction front generalizing draft number with
  | nil => rfl
  | cons line rest ih =>
      rw [List.cons_append, Draft.readAll, Draft.readAll]
      cases draft.read line with
      | error fault => rfl
      | ok next =>
          rw [List.length_cons, Nat.add_comm rest.length, ← Nat.add_assoc]
          exact ih next (number + 1)

/-- An error names a line further down when the lines are further down. -/
theorem Draft.readAll_add (draft : Draft) (number count : Nat)
    (lines : List Line) :
    draft.readAll (number + count) lines =
      (draft.readAll number lines).mapError fun (line, fault) =>
        (line + count, fault) := by
  induction lines generalizing draft number with
  | nil => rfl
  | cons line rest ih =>
      rw [Draft.readAll, Draft.readAll]
      cases draft.read line with
      | error fault => rfl
      | ok next =>
          rw [Nat.add_right_comm]
          exact ih next (number + 1)

/-- Lines that each leave a draft as it is leave it together. -/
theorem Draft.readAll_of_kept {draft : Draft} {lines : List Line}
    (kept : ∀ line ∈ lines, draft.read line = .ok draft) (number : Nat) :
    draft.readAll number lines = .ok draft := by
  induction lines generalizing number with
  | nil => rfl
  | cons line rest ih =>
      obtain ⟨first, others⟩ := List.forall_mem_cons.1 kept
      rw [Draft.readAll, first]
      exact ih others (number + 1)

/-- Lines that say nothing up to the first header. -/
def SilentBeforeHeader : List Line → Prop
  | [] => True
  | .skipped :: rest => SilentBeforeHeader rest
  | .header _ :: _ => True
  | .entry _ _ :: _ => False

/-- The section at hand is closed where the first header is. -/
theorem readAll_selfContained {lines : List Line}
    (silent : SilentBeforeHeader lines) (draft : Draft) (number : Nat) :
    (draft.readAll number lines).map Draft.finish =
      (Draft.readAll {} number lines).map fun alone =>
        draft.finish.merge alone.finish := by
  induction lines generalizing number with
  | nil =>
      have nothing : Draft.finish {} = {} := rfl
      simp [Draft.readAll, Except.map, nothing]
  | cons line rest ih =>
      cases line with
      | skipped => exact ih silent (number + 1)
      | header name =>
          let opened : Draft := { current := Section.named name }
          have started : Draft.mk draft.finish (Section.named name) =
              opened.on draft.finish := by
            simp [opened, Draft.on]
          change ((Draft.mk draft.finish (Section.named name)).readAll
              (number + 1) rest).map Draft.finish =
            (opened.readAll (number + 1) rest).map _
          rw [started, Draft.readAll_on]
          cases opened.readAll (number + 1) rest with
          | error fault => rfl
          | ok alone =>
              exact congrArg Except.ok (Draft.finish_on draft.finish alone)
      | entry key value => exact silent.elim

/-! ## Whole documents -/

/--
No line of a text that stands before its first header has an equals sign,
comments apart.
-/
def IsSelfContained (text : List Char) : Prop :=
  ∀ line ∈ (meaningfulLines text).takeWhile fun line => ¬ IsHeader line,
    '=' ∉ line

instance (text : List Char) : Decidable (IsSelfContained text) :=
  inferInstanceAs (Decidable (∀ line ∈ _, _))

theorem entryOf?_eq_none_iff {line : List Char} :
    entryOf? line = none ↔ '=' ∉ line := by
  rw [entryOf?, Option.map_eq_none_iff, Text.splitOnce?_eq_none_iff]

theorem silentBeforeHeader_of_selfContained {text : List Char}
    (alone : IsSelfContained text) :
    SilentBeforeHeader (documentLines text) := by
  unfold IsSelfContained meaningfulLines at alone
  unfold documentLines
  generalize Text.lines text = lines at alone ⊢
  induction lines with
  | nil => trivial
  | cons line rest ih =>
      rw [List.map_cons] at alone ⊢
      rw [Line.ofText]
      cases remark : Line.isRemark (Text.trim line) with
      | true =>
          have dropped := isRemark_eq_true_iff.1 remark
          rw [List.filter_cons_of_neg (by simpa using dropped)] at alone
          rw [Line.ofTrimmed, remark]
          exact ih alone
      | false =>
          have kept := isRemark_eq_false_iff.1 remark
          rw [List.filter_cons_of_pos (by simpa using kept)] at alone
          rw [ofTrimmed_eq_lineOf remark, lineOf]
          by_cases header : IsHeader (Text.trim line)
          · rw [if_pos header]
            trivial
          · rw [List.takeWhile_cons_of_pos (by simpa using header),
              List.forall_mem_cons] at alone
            rw [if_neg header, entryOf?_eq_none_iff.2 alone.1]
            exact ih alone.2

/-- The lines of a text and the empty one that its end may leave. -/
theorem readAll_split (text : List Char) (draft : Draft) (number : Nat) :
    draft.readAll number ((Text.split '\n' text).map Line.ofText) =
      draft.readAll number (documentLines text) := by
  rcases Text.split_eq_lines_append text with same | longer
  · rw [same]
    rfl
  · rw [longer, List.map_append, Draft.readAll_append, documentLines]
    cases draft.readAll number ((Text.lines text).map Line.ofText) <;> rfl

/-- The lower text is read on its own, and its lines are counted on. -/
theorem parseText_append {front back : List Char}
    (alone : IsSelfContained back) :
    parseText (front ++ '\n' :: back) =
      (parseText front).bind fun earlier =>
        ((parseText back).mapError fun (line, fault) =>
          (line + (front.count '\n' + 1), fault)).map earlier.merge := by
  have lines : documentLines (front ++ '\n' :: back) =
      (Text.split '\n' front).map Line.ofText ++ documentLines back := by
    rw [documentLines, Text.lines_append, List.map_append]
    rfl
  have count : ((Text.split '\n' front).map Line.ofText).length =
      front.count '\n' + 1 := by
    rw [List.length_map, Text.length_split]
  rw [parseText, lines, Draft.readAll_append, readAll_split, count,
    parseText, parseText]
  cases Draft.readAll {} 1 (documentLines front) with
  | error fault => rfl
  | ok draft =>
      have silent := silentBeforeHeader_of_selfContained alone
      have closed := readAll_selfContained silent draft
        (1 + (front.count '\n' + 1))
      rw [Draft.readAll_add {}] at closed
      change (draft.readAll _ _).map Draft.finish =
        (((Draft.readAll {} 1 (documentLines back)).map _).mapError _).map _
      rw [closed]
      cases Draft.readAll {} 1 (documentLines back) <;> rfl

/--
Two texts, one below the other, of which the lower one has no entry above its
first header, are read one by one.  An error in the upper text is the error of
both; an error in the lower one names its line counted from the top; and
otherwise the lower configuration is merged into the upper one.
-/
theorem parse_append (front back : String)
    (alone : IsSelfContained back.toList) :
    parse (front ++ "\n" ++ back) = do
      let earlier ← parse front
      let later ←
        (parse back).mapError (Error.lowered (front.toList.count '\n' + 1))
      return earlier.merge later := by
  have text : (front ++ "\n" ++ back).toList =
      front.toList ++ '\n' :: back.toList := by
    simp
  rw [parse, text, parseText_append alone, parse, parse]
  cases parseText front.toList with
  | error fault => rfl
  | ok earlier => cases parseText back.toList <;> rfl

/--
A peer that is still open when the upper text ends, and below it a comment, a
line without meaning and a second interface; then the same with a bad value.
-/
theorem parse_append_openPeer :
    let front :=
      "[Interface]\nListenPort = 1\nAddress = ::/0\n[Peer]\nEndpoint = 0.0.0.0:5\n"
    let back (port : String) :=
      "; x = y\nnote\n[Interface]\nListenPort = " ++ port
    (∀ port ∈ ["2", "x"], IsSelfContained (back port).toList) ∧
      parse (front ++ "\n" ++ back "2") =
        .ok {
          interface :=
            { listenPort := some 2, addresses := [Prefix.everything .ipv6] }
          peers := [{ endpoint := some (.ipv4 (Octets.zero 4) 5) }] } ∧
      parse (front ++ "\n" ++ back "x") =
        .error (.parse 10 "invalid ListenPort 'x'") := by
  intro front back
  have alone : ∀ port ∈ ["2", "x"], IsSelfContained (back port).toList := by
    decide
  refine ⟨alone, ?_, ?_⟩
  · rw [parse_append front (back "2") (alone _ (by decide))]
    decide
  · rw [parse_append front (back "x") (alone _ (by decide))]
    decide

end Config

end Tunnel
