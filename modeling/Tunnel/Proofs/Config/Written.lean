import Tunnel.Config.Printer
import Tunnel.Proofs.Config.Value
import Tunnel.Proofs.Key
import Tunnel.Proofs.Prefix

/-!
# Written lines

Every value that the writer puts down spells what it was written for and can
stand to the right of an equals sign.  Hence a written line is read as the
entry that it was written for, and no line is broken in two.
-/

namespace Tunnel.Config

/-! ## Values -/

/-- A text that can be the whole value of an entry. -/
structure IsValue (value : List Char) : Prop where
  some : value ≠ []
  tight : Text.Tight value
  single : '\n' ∉ value

theorem IsValue.ofSolid {value : List Char} (some : value ≠ [])
    (solid : Text.Solid value) : IsValue value :=
  ⟨some, solid.tight, solid.newline_not_mem⟩

theorem isKeyText_toText (key : Key) : IsKeyText key.toText key := by
  have read := Key.ofText_toText key
  refine ⟨?_, read⟩
  intro empty
  rw [empty] at read
  cases read

theorem isValue_key (key : Key) : IsValue key.toText :=
  .ofSolid (isKeyText_toText key).1 (Key.solid_toText key)

theorem isWordText_wordText (word : UInt16) :
    IsWordText (wordText word) word :=
  Numeral.word16?_decimal word

theorem isValue_word (word : UInt16) : IsValue (wordText word) :=
  .ofSolid (Numeral.render_ne_nil 10 word.toNat)
    (Numeral.solid_decimal word.toNat)

theorem isValue_endpoint (endpoint : Endpoint) : IsValue endpoint.toText := by
  refine .ofSolid ?_ (Endpoint.solid_toText endpoint)
  cases endpoint <;> simp [Endpoint.toText]

theorem isNetworksText_join (networks : List Prefix) :
    IsNetworksText (Text.join ", ".toList (networks.map Prefix.toText))
      networks := by
  cases networks with
  | nil => exact Or.inl ⟨rfl, rfl⟩
  | cons first rest =>
      right
      have absent : ∀ item ∈ first.toText :: rest.map Prefix.toText,
          ',' ∉ item := by
        intro item member
        rw [← List.map_cons] at member
        obtain ⟨network, -, rfl⟩ := List.mem_map.1 member
        exact Prefix.comma_not_mem_toText network
      have cut := Text.split_join_append (show ',' ∉ [' '] by decide) absent
      have whole := Text.join_split ','
        (Text.join ", ".toList ((first :: rest).map Prefix.toText))
      refine ⟨_, Text.split_ne_nil ',' _,
        fun item => Text.not_mem_of_mem_split, Or.inl whole.symm, ?_⟩
      rw [List.map_cons]
      change List.Forall₂ _ (Text.split ',' (Text.join [',', ' '] _)) _
      rw [cut]
      have bare : ∀ character ∈ [], Text.isBlank character = true :=
        fun character member => absurd member List.not_mem_nil
      refine .cons (Prefix.ofText_append_toText bare first) ?_
      rw [List.map_map, List.forall₂_map_left_iff, List.forall₂_same]
      exact fun network _ =>
        Prefix.ofText_append_toText Text.blank_space network

theorem isValue_networks {networks : List Prefix} (some : networks ≠ []) :
    IsValue (Text.join ", ".toList (networks.map Prefix.toText)) where
  some := by
    obtain ⟨first, rest, rfl⟩ := List.exists_cons_of_ne_nil some
    exact Text.join_ne_nil (Prefix.toText_ne_nil first) _
  tight := by
    apply Text.tight_join
    · intro item member
      obtain ⟨network, -, rfl⟩ := List.mem_map.1 member
      exact Prefix.toText_ne_nil network
    · intro item member
      obtain ⟨network, -, rfl⟩ := List.mem_map.1 member
      exact (Prefix.solid_toText network).tight
  single := by
    intro newline
    rcases Text.mem_join newline with inComma | ⟨item, member, inItem⟩
    · exact absurd inComma (by decide)
    · obtain ⟨network, -, rfl⟩ := List.mem_map.1 member
      exact (Prefix.solid_toText network).newline_not_mem inItem

/-! ## Entries -/

/-- A key that starts neither a remark nor a header and has no blank. -/
def IsKeyword (key : List Char) : Prop :=
  key ≠ [] ∧ ∀ character ∈ key,
    Text.isBlank character = false ∧ character ∉ ['=', '#', ';', '[']

-- The characters of the key are checked, not all characters there are.
instance (key : List Char) : Decidable (IsKeyword key) :=
  @instDecidableAnd _ _ _ (List.decidableBAll _ key)

theorem IsKeyword.solid {key : List Char} (keyword : IsKeyword key) :
    Text.Solid key :=
  fun character member => (keyword.2 character member).1

variable {key value : List Char}

theorem isRemark_entryLine (keyword : IsKeyword key) :
    Line.isRemark (entryLine key value) = false := by
  obtain ⟨first, rest, rfl⟩ := List.exists_cons_of_ne_nil keyword.1
  have plain := (keyword.2 first List.mem_cons_self).2
  simp only [List.mem_cons, not_or] at plain
  simp [entryLine, Line.isRemark, plain]

theorem headerName?_entryLine (keyword : IsKeyword key) :
    Line.headerName? (entryLine key value) = none := by
  obtain ⟨first, rest, rfl⟩ := List.exists_cons_of_ne_nil keyword.1
  have plain := (keyword.2 first List.mem_cons_self).2
  simp only [List.mem_cons, not_or] at plain
  unfold Line.headerName?
  split
  · next equal =>
      exact absurd (List.cons.inj equal).1 plain.2.2.2.1
  · rfl

theorem splitOnce?_entryLine (keyword : IsKeyword key) :
    Text.splitOnce? '=' (entryLine key value) =
      some (key ++ [' '], ' ' :: value) := by
  have absent : '=' ∉ key ++ [' '] := by
    intro member
    rcases List.mem_append.1 member with inKey | inBlank
    · exact (keyword.2 '=' inKey).2 List.mem_cons_self
    · exact absurd inBlank (by decide)
  have cut := Text.splitOnce?_append absent (' ' :: value)
  simpa [entryLine] using cut

/-- A written entry is read as the entry it is. -/
theorem ofText_entryLine (keyword : IsKeyword key)
    (isValue : IsValue value) :
    Line.ofText (entryLine key value) = .entry key value := by
  have tight : Text.Tight (entryLine key value) :=
    keyword.solid.tight.around keyword.1 " = ".toList isValue.tight
      isValue.some
  have keyTrimmed : Text.trim (key ++ [' ']) = key := by
    have first : ∀ character ∈ (key ++ [' ']).head?,
        Text.isBlank character = false := by
      rw [List.head?_append_of_ne_nil _ keyword.1]
      exact keyword.solid.tight.first
    rw [Text.trim, Text.trimStart_of_head first,
      Text.trimEnd_append Text.blank_space,
      Text.trimEnd_of_last keyword.solid.tight.last]
  have valueTrimmed : Text.trim (' ' :: value) = value := by
    have shorter := Text.trimStart_append Text.blank_space value
    rw [List.singleton_append] at shorter
    rw [Text.trim, shorter]
    exact Text.trim_of_tight isValue.tight
  rw [Line.ofText, Text.trim_of_tight tight, Line.ofTrimmed,
    isRemark_entryLine keyword, headerName?_entryLine keyword,
    splitOnce?_entryLine keyword]
  simp only [keyTrimmed, valueTrimmed]
  rfl

theorem newline_not_mem_entryLine (keyword : IsKeyword key)
    (isValue : IsValue value) : '\n' ∉ entryLine key value := by
  intro newline
  rcases List.mem_append.1 newline with front | inValue
  · rcases List.mem_append.1 front with inKey | inEquals
    · exact keyword.solid.newline_not_mem inKey
    · exact absurd inEquals (by decide)
  · exact isValue.single inValue

/-! ## Lines -/

theorem ofText_empty : Line.ofText [] = .skipped := rfl

theorem ofText_interface :
    Line.ofText "[Interface]".toList = .header "Interface".toList := by
  decide

theorem ofText_peer :
    Line.ofText "[Peer]".toList = .header "Peer".toList := by
  decide

/-- The lines that are written for a configuration with some endpoints. -/
inductive IsWritten (endpoints : List Endpoint) : List Char → Prop
  | empty : IsWritten endpoints []
  | interface : IsWritten endpoints "[Interface]".toList
  | peer : IsWritten endpoints "[Peer]".toList
  | entry {key value : List Char} (keyword : IsKeyword key)
      (isValue : IsValue value) (other : key ≠ "Endpoint".toList) :
      IsWritten endpoints (entryLine key value)
  | endpoint {endpoint : Endpoint} (member : endpoint ∈ endpoints) :
      IsWritten endpoints (entryLine "Endpoint".toList endpoint.toText)

variable {endpoints : List Endpoint} {line : List Char}

theorem isWritten_optionalLine {α : Type} {name : String}
    {text : α → List Char} {field : Option α}
    (keyword : IsKeyword name.toList)
    (isValue : ∀ result, IsValue (text result))
    (other : name.toList ≠ "Endpoint".toList)
    (member : line ∈ optionalLine name text field) :
    IsWritten endpoints line := by
  cases field with
  | none => cases member
  | some result =>
      rw [List.mem_singleton.1 member]
      exact .entry keyword (isValue result) other

theorem isWritten_listLine {name : String} {networks : List Prefix}
    (keyword : IsKeyword name.toList)
    (other : name.toList ≠ "Endpoint".toList)
    (member : line ∈ listLine name networks) : IsWritten endpoints line := by
  cases networks with
  | nil => cases member
  | cons first rest =>
      rw [List.mem_singleton.1 member]
      exact .entry keyword (isValue_networks (by simp)) other

theorem isWritten_interface {interface : Interface}
    (member : line ∈ interface.toLines) : IsWritten endpoints line := by
  simp only [Interface.toLines, List.mem_append, or_assoc] at member
  rcases member with header | privateKey | publicKey | port | addresses
  · rw [List.mem_singleton.1 header]
    exact .interface
  · exact isWritten_optionalLine (by decide) isValue_key (by decide)
      privateKey
  · exact isWritten_optionalLine (by decide) isValue_key (by decide)
      publicKey
  · exact isWritten_optionalLine (by decide) isValue_word (by decide) port
  · exact isWritten_listLine (by decide) (by decide) addresses

/-- The lines of a peer before its endpoint. -/
def Peer.frontLines (peer : Peer) : List (List Char) :=
  [[], "[Peer]".toList] ++
    optionalLine "PublicKey" Key.toText peer.publicKey ++
    optionalLine "PresharedKey" Key.toText peer.presharedKey

/-- The lines of a peer after its endpoint. -/
def Peer.backLines (peer : Peer) : List (List Char) :=
  listLine "AllowedIPs" peer.allowedIps ++
    optionalLine "PersistentKeepalive" wordText peer.persistentKeepalive

theorem Peer.toLines_eq (peer : Peer) :
    peer.toLines = peer.frontLines ++
      (optionalLine "Endpoint" Endpoint.toText peer.endpoint ++
        peer.backLines) := by
  simp [Peer.toLines, Peer.frontLines, Peer.backLines]

theorem isWritten_frontLines {peer : Peer}
    (member : line ∈ peer.frontLines) : IsWritten endpoints line := by
  simp only [Peer.frontLines, List.mem_append, or_assoc] at member
  rcases member with start | publicKey | presharedKey
  · rcases List.mem_pair.1 start with rfl | rfl
    · exact .empty
    · exact .peer
  · exact isWritten_optionalLine (by decide) isValue_key (by decide)
      publicKey
  · exact isWritten_optionalLine (by decide) isValue_key (by decide)
      presharedKey

theorem isWritten_peer {peer : Peer}
    (known : ∀ endpoint ∈ peer.endpoint, endpoint ∈ endpoints)
    (member : line ∈ peer.toLines) : IsWritten endpoints line := by
  simp only [Peer.toLines_eq, Peer.backLines, List.mem_append] at member
  rcases member with front | endpoint | networks | keepalive
  · exact isWritten_frontLines front
  · cases equation : peer.endpoint with
    | none =>
        rw [equation] at endpoint
        cases endpoint
    | some found =>
        rw [equation] at endpoint
        rw [List.mem_singleton.1 endpoint]
        exact .endpoint (known found equation)
  · exact isWritten_listLine (by decide) (by decide) networks
  · exact isWritten_optionalLine (by decide) isValue_word (by decide)
      keepalive

theorem IsWritten.newline_not_mem (written : IsWritten endpoints line) :
    '\n' ∉ line := by
  cases written with
  | empty => exact List.not_mem_nil
  | interface => decide
  | peer => decide
  | entry keyword isValue _ => exact newline_not_mem_entryLine keyword isValue
  | endpoint member =>
      exact newline_not_mem_entryLine (by decide) (isValue_endpoint _)

/-- The line of an endpoint with a scope. -/
def IsScopedLine (line : List Char) : Prop :=
  ∃ endpoint : Endpoint, endpoint.scope ≠ 0 ∧
    line = entryLine "Endpoint".toList endpoint.toText

/-- A scope is seen in the line of its endpoint only. -/
theorem IsWritten.not_isScopedLine
    (plain : ∀ endpoint ∈ endpoints, endpoint.scope = 0)
    (written : IsWritten endpoints line) : ¬ IsScopedLine line := by
  rintro ⟨endpoint, zoned, same⟩
  have read : Line.ofText line =
      .entry "Endpoint".toList endpoint.toText := by
    rw [same]
    exact ofText_entryLine (by decide) (isValue_endpoint endpoint)
  cases written with
  | empty =>
      rw [ofText_empty] at read
      cases read
  | interface =>
      rw [ofText_interface] at read
      cases read
  | peer =>
      rw [ofText_peer] at read
      cases read
  | entry keyword isValue other =>
      rw [ofText_entryLine keyword isValue] at read
      exact other (Line.entry.inj read).1
  | endpoint member =>
      rename_i written
      rw [ofText_entryLine (by decide) (isValue_endpoint written)] at read
      have unread := Endpoint.ofText?_toText_eq_none zoned
      rw [← (Line.entry.inj read).2,
        Endpoint.ofText?_toText (plain written member)] at unread
      cases unread

end Tunnel.Config
