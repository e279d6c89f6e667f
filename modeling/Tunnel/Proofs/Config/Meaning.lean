import Tunnel.Proofs.Config.Entry

/-!
# The meaning of a document

A document is its sections: each header with the lines up to the next one.
The reader goes over the lines once, with a section and a peer at hand; what
it returns is told by the sections alone.  It succeeds exactly if every entry
that a section knows spells a value.  The local interface is then described by
the entries of all `[Interface]` sections together, and the peers are described
by the `[Peer]` sections one by one, in order.
-/

namespace Tunnel.Config

/-! ## Sections of a document -/

/-- The lines that say something, without blanks around them. -/
def meaningfulLines (text : List Char) : List (List Char) :=
  ((Text.lines text).map Text.trim).filter fun line =>
    line ≠ [] ∧ line.head? ≠ some '#' ∧ line.head? ≠ some ';'

/-- A line in brackets. -/
def IsHeader (line : List Char) : Prop :=
  2 ≤ line.length ∧ line.head? = some '[' ∧ line.getLast? = some ']'

instance (line : List Char) : Decidable (IsHeader line) :=
  inferInstanceAs (Decidable (_ ∧ _))

/-- The texts on either side of the first equals sign of a line. -/
def entryOf? (line : List Char) : Option Entry :=
  (Text.splitOnce? '=' line).map fun (key, value) =>
    ⟨Text.trim key, Text.trim value⟩

/-- The entries of the lines before the first header. -/
def entriesBefore (lines : List (List Char)) : List Entry :=
  (lines.takeWhile fun line => ¬ IsHeader line).filterMap entryOf?

/-- A header with its entries. -/
structure Block where
  name : List Char
  entries : List Entry
deriving DecidableEq

/-- Each header, in order, with the entries up to the next header. -/
def blocks : List (List Char) → List Block
  | [] => []
  | line :: rest =>
      if IsHeader line then
        ⟨line.tail.dropLast, entriesBefore rest⟩ :: blocks rest
      else blocks rest

/-- The sections of a document. -/
def documentBlocks (text : List Char) : List Block :=
  blocks (meaningfulLines text)

/-! ## What sections say -/

/-- The sections of a name. -/
def blocksNamed (name : String) (all : List Block) : List Block :=
  all.filter (·.name = name.toList)

/-- A section whose every entry spells what it must, if its key is known. -/
def Block.IsWellFormed (block : Block) : Prop :=
  (block.name = "Interface".toList →
      ∀ entry ∈ block.entries, Interface.Accepts entry) ∧
    (block.name = "Peer".toList →
      ∀ entry ∈ block.entries, Peer.Accepts entry)

/-- The configuration that sections describe. -/
structure IsDescribed (all : List Block) (config : Config) : Prop where
  interface :
    Interface.IsDescribed ((blocksNamed "Interface" all).flatMap (·.entries))
      config.interface
  peers :
    List.Forall₂ (fun block peer => Peer.IsDescribed block.entries peer)
      (blocksNamed "Peer" all) config.peers

/-! ## Reading line by line -/

/-- What a line that says something says. -/
def lineOf (line : List Char) : Line :=
  if IsHeader line then .header line.tail.dropLast
  else
    match entryOf? line with
    | some entry => .entry entry.key entry.value
    | none => .skipped

theorem isRemark_eq_false_iff {line : List Char} :
    Line.isRemark line = false ↔
      line ≠ [] ∧ line.head? ≠ some '#' ∧ line.head? ≠ some ';' := by
  cases line with
  | nil => simp [Line.isRemark]
  | cons first rest => simp [Line.isRemark]

theorem isRemark_eq_true_iff {line : List Char} :
    Line.isRemark line = true ↔
      ¬ (line ≠ [] ∧ line.head? ≠ some '#' ∧ line.head? ≠ some ';') := by
  rw [← isRemark_eq_false_iff, Bool.not_eq_false]

theorem headerName?_eq {line : List Char} :
    Line.headerName? line =
      if IsHeader line then some line.tail.dropLast else none := by
  rcases line with _ | ⟨first, rest⟩
  · rfl
  · by_cases bracket : first = '['
    · subst bracket
      have same : IsHeader ('[' :: rest) ↔ rest.getLast? = some ']' := by
        rcases rest with _ | ⟨second, more⟩
        · decide
        · simp [IsHeader, List.getLast?_cons]
      simp [Line.headerName?, same]
    · have other : ¬ IsHeader (first :: rest) := fun header =>
        bracket (Option.some.inj header.2.1)
      rw [if_neg other]
      unfold Line.headerName?
      split
      · next equal => exact absurd (List.cons.inj equal).1 bracket
      · rfl

theorem ofTrimmed_eq_lineOf {line : List Char}
    (meant : Line.isRemark line = false) :
    Line.ofTrimmed line = lineOf line := by
  unfold Line.ofTrimmed lineOf entryOf?
  rw [meant, headerName?_eq]
  by_cases header : IsHeader line
  · simp [header]
  · cases Text.splitOnce? '=' line <;> simp [header]

/-- Reading all lines is taking one step for each. -/
theorem readAll_eq_ok_iff {draft final : Draft} {number : Nat}
    {lines : List Line} :
    draft.readAll number lines = .ok final ↔
      lines.foldlM Draft.read draft = .ok final := by
  induction lines generalizing draft number with
  | nil =>
      constructor
      · intro same
        cases same
        rfl
      · intro same
        cases same
        rfl
  | cons line rest ih =>
      rw [Draft.readAll, foldlM_cons_eq_ok_iff]
      cases step : draft.read line with
      | error fault => simp
      | ok next => simp [ih]

/-- Lines that say nothing change nothing. -/
theorem foldlM_documentLines (text : List Char) (draft : Draft) :
    (documentLines text).foldlM Draft.read draft =
      ((meaningfulLines text).map lineOf).foldlM Draft.read draft := by
  unfold documentLines meaningfulLines
  induction Text.lines text generalizing draft with
  | nil => rfl
  | cons line rest ih =>
      rw [List.map_cons, List.map_cons, List.foldlM_cons, Line.ofText]
      cases remark : Line.isRemark (Text.trim line) with
      | true =>
          have dropped := isRemark_eq_true_iff.1 remark
          rw [List.filter_cons_of_neg (by simpa using dropped),
            Line.ofTrimmed, remark]
          exact ih draft
      | false =>
          have kept := isRemark_eq_false_iff.1 remark
          rw [List.filter_cons_of_pos (by simpa using kept), List.map_cons,
            List.foldlM_cons, ofTrimmed_eq_lineOf remark]
          congr 1
          funext next
          exact ih next

/-- What has been read at the end of a section with some entries to come. -/
def Draft.close (draft : Draft) (entries : List Entry) :
    Except Fault Config :=
  match draft.current with
  | .interface =>
      (draft.config.interface.setAll entries).map fun interface =>
        { draft.config with interface }
  | .peer peer =>
      (peer.setAll entries).map fun peer =>
        { draft.config with peers := draft.config.peers ++ [peer] }
  | .outside | .unknown => .ok draft.config

/-- What has been read after one more section. -/
def readBlock (config : Config) (block : Block) : Except Fault Config :=
  Draft.close { config, current := Section.named block.name } block.entries

theorem close_nil (draft : Draft) : draft.close [] = .ok draft.finish := by
  unfold Draft.close Draft.finish
  cases draft.current <;> rfl

theorem close_cons (draft : Draft) (entry : Entry) (rest : List Entry) :
    draft.close (entry :: rest) =
      (draft.read (.entry entry.key entry.value)).bind fun next =>
        next.close rest := by
  rcases draft with ⟨config, current⟩
  cases current with
  | outside => rfl
  | unknown => rfl
  | interface =>
      simp only [Draft.close, Draft.read, Interface.setAll, List.foldlM_cons]
      cases config.interface.set entry.key entry.value <;> rfl
  | peer peer =>
      simp only [Draft.close, Draft.read, Peer.setAll, List.foldlM_cons]
      cases peer.set entry.key entry.value <;> rfl

theorem entriesBefore_header {line : List Char} (header : IsHeader line)
    (rest : List (List Char)) : entriesBefore (line :: rest) = [] := by
  simp [entriesBefore, header]

theorem entriesBefore_other {line : List Char} (other : ¬ IsHeader line)
    (rest : List (List Char)) :
    entriesBefore (line :: rest) =
      (entryOf? line).toList ++ entriesBefore rest := by
  cases equation : entryOf? line <;>
    simp [entriesBefore, other, equation]

/-- Reading the lines is closing the section at hand and reading the others. -/
theorem foldlM_lineOf (lines : List (List Char)) (draft : Draft) :
    ((lines.map lineOf).foldlM Draft.read draft).map Draft.finish =
      (draft.close (entriesBefore lines)).bind fun config =>
        (blocks lines).foldlM readBlock config := by
  induction lines generalizing draft with
  | nil =>
      rw [entriesBefore, List.takeWhile_nil, List.filterMap_nil, close_nil]
      rfl
  | cons line rest ih =>
      rw [List.map_cons, List.foldlM_cons]
      by_cases header : IsHeader line
      · rw [entriesBefore_header header, close_nil, blocks, if_pos header,
          lineOf, if_pos header]
        exact ih { config := draft.finish
                   current := Section.named line.tail.dropLast }
      · rw [entriesBefore_other header, blocks, if_neg header, lineOf,
          if_neg header]
        cases entryOf? line with
        | none => exact ih draft
        | some entry =>
            rw [Option.toList_some, List.singleton_append, close_cons]
            cases step : draft.read (.entry entry.key entry.value) with
            | error fault => rfl
            | ok next => exact ih next

/-! ## Reading section by section -/

section Blocks

variable {config final : Config} {block : Block} {rest : List Block}

theorem readBlock_interface (header : block.name = "Interface".toList) :
    readBlock config block =
      (config.interface.setAll block.entries).map fun interface =>
        { config with interface } := by
  rw [readBlock, header]
  rfl

theorem readBlock_peer (header : block.name = "Peer".toList) :
    readBlock config block =
      (({} : Peer).setAll block.entries).map fun peer =>
        { config with peers := config.peers ++ [peer] } := by
  rw [readBlock, header]
  rfl

theorem readBlock_other (noInterface : block.name ≠ "Interface".toList)
    (noPeer : block.name ≠ "Peer".toList) :
    readBlock config block = .ok config := by
  rw [Ne, eq_toList_iff] at noInterface noPeer
  unfold readBlock Draft.close Section.named
  grind

theorem blocksNamed_cons_of_eq {name : String}
    (header : block.name = name.toList) :
    blocksNamed name (block :: rest) = block :: blocksNamed name rest :=
  List.filter_cons_of_pos (decide_eq_true header)

theorem blocksNamed_cons_of_ne {name : String}
    (header : block.name ≠ name.toList) :
    blocksNamed name (block :: rest) = blocksNamed name rest :=
  List.filter_cons_of_neg (by simpa using header)

/--
The sections in a row set the interface by all entries of `[Interface]`
sections, and add one peer for each `[Peer]` section.
-/
theorem foldlM_readBlock {all : List Block} :
    all.foldlM readBlock config = .ok final ↔
      config.interface.setAll
          ((blocksNamed "Interface" all).flatMap (·.entries)) =
        .ok final.interface ∧
      ∃ peers, final.peers = config.peers ++ peers ∧
        List.Forall₂
          (fun block peer => ({} : Peer).setAll block.entries = .ok peer)
          (blocksNamed "Peer" all) peers := by
  induction all generalizing config with
  | nil =>
      constructor
      · intro same
        cases same
        exact ⟨rfl, [], (List.append_nil _).symm, .nil⟩
      · rintro ⟨interface, peers, all, none⟩
        cases none
        rw [List.append_nil] at all
        cases final
        cases interface
        cases all
        rfl
  | cons block rest ih =>
      rw [foldlM_cons_eq_ok_iff]
      by_cases interface : block.name = "Interface".toList
      · have noPeer : block.name ≠ "Peer".toList := by
          rw [interface]
          decide
        rw [readBlock_interface interface, blocksNamed_cons_of_eq interface,
          blocksNamed_cons_of_ne noPeer, List.flatMap_cons,
          Interface.setAll_append_eq_ok_iff]
        simp only [map_eq_ok_iff]
        constructor
        · rintro ⟨next, ⟨middle, first, rfl⟩, others⟩
          obtain ⟨whole, peers⟩ := ih.1 others
          exact ⟨⟨middle, first, whole⟩, peers⟩
        · rintro ⟨⟨middle, first, whole⟩, peers⟩
          exact ⟨_, ⟨middle, first, rfl⟩, ih.2 ⟨whole, peers⟩⟩
      · rw [blocksNamed_cons_of_ne interface]
        by_cases peer : block.name = "Peer".toList
        · rw [readBlock_peer peer, blocksNamed_cons_of_eq peer]
          simp only [map_eq_ok_iff]
          constructor
          · rintro ⟨next, ⟨one, first, rfl⟩, others⟩
            obtain ⟨whole, peers, all, each⟩ := ih.1 others
            refine ⟨whole, one :: peers, ?_, .cons first each⟩
            rw [all, List.append_assoc]
            rfl
          · rintro ⟨whole, peers, all, each⟩
            cases each with
            | cons first others =>
                refine ⟨_, ⟨_, first, rfl⟩, ih.2 ⟨whole, _, ?_, others⟩⟩
                rw [all, List.append_assoc]
                rfl
        · rw [readBlock_other interface peer, blocksNamed_cons_of_ne peer]
          constructor
          · rintro ⟨next, same, others⟩
            cases same
            exact ih.1 others
          · intro described
            exact ⟨config, rfl, ih.2 described⟩

/-- Whether a section can be read depends on the section alone. -/
theorem exists_readBlock_iff (config : Config) (block : Block) :
    (∃ next, readBlock config block = .ok next) ↔ block.IsWellFormed := by
  by_cases interface : block.name = "Interface".toList
  · have noPeer : block.name ≠ "Peer".toList := by
      rw [interface]
      decide
    rw [readBlock_interface interface]
    constructor
    · rintro ⟨next, read⟩
      obtain ⟨after, all, -⟩ := map_eq_ok_iff.1 read
      exact ⟨fun _ => Interface.exists_setAll_eq_ok_iff.1 ⟨after, all⟩,
        fun peer => absurd peer noPeer⟩
    · intro good
      obtain ⟨after, all⟩ :=
        Interface.exists_setAll_eq_ok_iff.2 (good.1 interface)
      exact ⟨_, map_eq_ok_iff.2 ⟨after, all, rfl⟩⟩
  · by_cases peer : block.name = "Peer".toList
    · rw [readBlock_peer peer]
      constructor
      · rintro ⟨next, read⟩
        obtain ⟨after, all, -⟩ := map_eq_ok_iff.1 read
        exact ⟨fun other => absurd other interface,
          fun _ => Peer.exists_setAll_eq_ok_iff.1 ⟨after, all⟩⟩
      · intro good
        obtain ⟨after, all⟩ :=
          Peer.exists_setAll_eq_ok_iff.2 (good.2 peer)
        exact ⟨_, map_eq_ok_iff.2 ⟨after, all, rfl⟩⟩
    · rw [readBlock_other interface peer]
      constructor
      · intro _
        exact ⟨fun other => absurd other interface,
          fun other => absurd other peer⟩
      · intro _
        exact ⟨config, rfl⟩

end Blocks

/-! ## Whole documents -/

/-- Reading a document is reading its sections. -/
theorem parseText_eq_ok_iff_foldlM {text : List Char} {config : Config} :
    parseText text = .ok config ↔
      (documentBlocks text).foldlM readBlock {} = .ok config := by
  have closed : Draft.close {} (entriesBefore (meaningfulLines text)) =
      .ok {} := rfl
  have all := foldlM_lineOf (meaningfulLines text) {}
  rw [closed, ← foldlM_documentLines] at all
  have same : ((documentLines text).foldlM Draft.read {}).map Draft.finish =
      (documentBlocks text).foldlM readBlock {} := all
  rw [← same, parseText, map_eq_ok_iff, map_eq_ok_iff]
  simp only [readAll_eq_ok_iff]

/-- A document can be read exactly if all its sections are well formed. -/
theorem exists_parseText_iff {text : List Char} :
    (∃ config, parseText text = .ok config) ↔
      ∀ block ∈ documentBlocks text, block.IsWellFormed := by
  simp only [parseText_eq_ok_iff_foldlM]
  exact exists_foldlM_eq_ok_iff exists_readBlock_iff (documentBlocks text) {}

/-- What is read is what the sections describe. -/
theorem parseText_eq_ok_iff {text : List Char} {config : Config} :
    parseText text = .ok config ↔
      (∀ block ∈ documentBlocks text, block.IsWellFormed) ∧
        IsDescribed (documentBlocks text) config := by
  constructor
  · intro read
    refine ⟨exists_parseText_iff.1 ⟨config, read⟩, ?_⟩
    rw [parseText_eq_ok_iff_foldlM, foldlM_readBlock] at read
    obtain ⟨whole, peers, all, each⟩ := read
    have same : config.peers = peers := all
    refine ⟨(Interface.setAll_eq_ok_iff.1 whole).2, ?_⟩
    rw [same]
    exact each.imp fun block peer set => (Peer.setAll_eq_ok_iff.1 set).2
  · rintro ⟨good, described⟩
    have accepted : ∀ entry ∈ (blocksNamed "Interface"
        (documentBlocks text)).flatMap (·.entries),
        Interface.Accepts entry := by
      intro entry member
      obtain ⟨block, inNamed, inBlock⟩ := List.mem_flatMap.1 member
      obtain ⟨inAll, header⟩ := List.mem_filter.1 inNamed
      exact (good block inAll).1 (of_decide_eq_true header) entry inBlock
    have peersAccepted : ∀ block ∈ blocksNamed "Peer" (documentBlocks text),
        ∀ entry ∈ block.entries, Peer.Accepts entry := by
      intro block inNamed
      obtain ⟨inAll, header⟩ := List.mem_filter.1 inNamed
      exact (good block inAll).2 (of_decide_eq_true header)
    have each := (List.forall₂_and_left _ _).2
      ⟨peersAccepted, described.peers⟩
    rw [parseText_eq_ok_iff_foldlM, foldlM_readBlock]
    refine ⟨Interface.setAll_eq_ok_iff.2 ⟨accepted, described.interface⟩,
      config.peers, rfl, ?_⟩
    exact each.imp fun block peer both => Peer.setAll_eq_ok_iff.2 both

example :
    parseText
        ("[Interface]\nListenPort = 1\n[Peer]\nListenPort = x\n" ++
          "[Interface]\nListenPort = 2\n[Peer]").toList =
      .ok { interface := { listenPort := some 2 }, peers := [{}, {}] } := by
  decide

/--
A text is read exactly if every section is well formed, and what is read is
the one configuration that the sections describe.
-/
theorem parse_eq_described (text : String) :
    ((∃ config, parse text = .ok config) ↔
      ∀ block ∈ documentBlocks text.toList, block.IsWellFormed) ∧
    ∀ config, parse text = .ok config ↔
      (∀ block ∈ documentBlocks text.toList, block.IsWellFormed) ∧
        IsDescribed (documentBlocks text.toList) config := by
  have whole : ∀ config, parse text = .ok config ↔
      parseText text.toList = .ok config :=
    fun _ => mapError_eq_ok_iff
  constructor
  · simp only [whole]
    exact exists_parseText_iff
  · intro config
    rw [whole]
    exact parseText_eq_ok_iff

end Tunnel.Config
