import Tunnel.Proofs.Config.Meaning
import Tunnel.Proofs.Config.Written

/-!
# Documents read back

A configuration is read back from its canonical document without the flow
labels of its endpoints, which the document does not have.  If an endpoint has
a scope, the reading stops at the line of the first such endpoint.
-/

namespace Tunnel.Config

/-! ## Runs over lines -/

/-- Reading some lines takes one draft to another. -/
def Reads (before : Draft) (lines : List (List Char)) (after : Draft) :
    Prop :=
  (lines.map Line.ofText).foldlM Draft.read before = .ok after

theorem Reads.nil (draft : Draft) : Reads draft [] draft := rfl

theorem Reads.single {before after : Draft} {line : List Char}
    (read : before.read (Line.ofText line) = .ok after) :
    Reads before [line] after := by
  rw [Reads, List.map_singleton, foldlM_cons_eq_ok_iff]
  exact ⟨after, read, rfl⟩

theorem Reads.append {before middle after : Draft}
    {front back : List (List Char)} (first : Reads before front middle)
    (second : Reads middle back after) :
    Reads before (front ++ back) after := by
  rw [Reads, List.map_append, List.foldlM_append, bind_eq_ok_iff]
  exact ⟨middle, first, second⟩

/-- The reading stops at a line with a fault, and its number is told. -/
theorem Reads.readAll_error {before middle : Draft}
    {front back : List (List Char)} {line : List Char} {fault : Fault}
    (first : Reads before front middle)
    (faulty : middle.read (Line.ofText line) = .error fault)
    (number : Nat) :
    before.readAll number ((front ++ line :: back).map Line.ofText) =
      .error (number + front.length, fault) := by
  induction front generalizing before number with
  | nil =>
      cases first
      simp [Draft.readAll, faulty]
  | cons other rest ih =>
      obtain ⟨next, step, others⟩ := foldlM_cons_eq_ok_iff.1 first
      have later := ih others (number + 1)
      rw [List.cons_append, List.map_cons, Draft.readAll, step]
      simp only [later, List.length_cons]
      congr 2
      omega

/-! ## Fields -/

section Fields

variable {name : String}

/-- The line of an optional field gives the field its value. -/
theorem reads_optionalLine {α : Type} {text : α → List Char}
    (after : Option α → Draft) (field : Option α)
    (one : ∀ result, field = some result →
      (after none).read (Line.ofText (entryLine name.toList (text result))) =
        .ok (after (some result))) :
    Reads (after none) (optionalLine name text field) (after field) := by
  cases field with
  | none => exact .nil _
  | some result => exact .single (one result rfl)

/-- The line of a list gives the list its prefixes. -/
theorem reads_listLine (after : List Prefix → Draft)
    (networks : List Prefix)
    (one : networks ≠ [] →
      (after []).read
        (Line.ofText (entryLine name.toList
          (Text.join ", ".toList (networks.map Prefix.toText)))) =
        .ok (after networks)) :
    Reads (after []) (listLine name networks) (after networks) := by
  cases networks with
  | nil => exact .nil _
  | cons first rest => exact .single (one (by simp))

theorem read_interface {key value : List Char} {config : Config}
    {next : Interface} (keyword : IsKeyword key) (isValue : IsValue value)
    (set : config.interface.set key value = .ok next) :
    Draft.read ⟨config, .interface⟩ (Line.ofText (entryLine key value)) =
      .ok ⟨{ config with interface := next }, .interface⟩ := by
  rw [ofText_entryLine keyword isValue]
  simp only [Draft.read, set]
  rfl

theorem read_peer {key value : List Char} {config : Config}
    {peer next : Peer} (keyword : IsKeyword key) (isValue : IsValue value)
    (set : peer.set key value = .ok next) :
    Draft.read ⟨config, .peer peer⟩ (Line.ofText (entryLine key value)) =
      .ok ⟨config, .peer next⟩ := by
  rw [ofText_entryLine keyword isValue]
  simp only [Draft.read, set]
  rfl

end Fields

/-! ## Sections -/

theorem keyValue_toText (key : Key) : keyValue key.toText = .ok key :=
  keyValue_eq_ok_iff.2 (isKeyText_toText key)

theorem numberValue_wordText (name : List Char) (word : UInt16) :
    numberValue name (wordText word) = .ok word :=
  numberValue_eq_ok_iff.2 (isWordText_wordText word)

theorem networksValue_join (networks : List Prefix) :
    networksValue (Text.join ", ".toList (networks.map Prefix.toText)) =
      .ok networks :=
  networksValue_eq_ok_iff.2 (isNetworksText_join networks)

theorem endpointValue_toText {endpoint : Endpoint}
    (plain : endpoint.scope = 0) :
    endpointValue endpoint.toText = .ok endpoint.withoutFlow :=
  endpointValue_eq_ok_iff.2 (Endpoint.ofText?_toText plain)

/-- The lines of the local interface are read as the interface. -/
theorem reads_interface (interface : Interface) :
    Reads {} interface.toLines ⟨{ interface }, .interface⟩ := by
  let draft (next : Interface) : Draft := ⟨{ interface := next }, .interface⟩
  rcases interface with ⟨privateKey, publicKey, listenPort, addresses⟩
  have header : Reads {} ["[Interface]".toList] (draft {}) :=
    .single (by rw [ofText_interface]; rfl)
  have first : Reads (draft {})
      (optionalLine "PrivateKey" Key.toText privateKey)
      (draft { privateKey }) := by
    refine reads_optionalLine (fun field => draft ⟨field, none, none, []⟩)
      privateKey fun key _ => ?_
    refine read_interface (by decide) (isValue_key key) ?_
    simp only [Interface.set, String.ofList_toList, keyValue_toText]
    rfl
  have second : Reads (draft { privateKey })
      (optionalLine "PublicKey" Key.toText publicKey)
      (draft { privateKey, publicKey }) := by
    refine reads_optionalLine
      (fun field => draft ⟨privateKey, field, none, []⟩)
      publicKey fun key _ => ?_
    refine read_interface (by decide) (isValue_key key) ?_
    simp only [Interface.set, String.ofList_toList, keyValue_toText]
    rfl
  have third : Reads (draft { privateKey, publicKey })
      (optionalLine "ListenPort" wordText listenPort)
      (draft { privateKey, publicKey, listenPort }) := by
    refine reads_optionalLine
      (fun field => draft ⟨privateKey, publicKey, field, []⟩)
      listenPort fun port _ => ?_
    refine read_interface (by decide) (isValue_word port) ?_
    simp only [Interface.set, String.ofList_toList, numberValue_wordText]
    rfl
  have fourth : Reads (draft { privateKey, publicKey, listenPort })
      (listLine "Address" addresses)
      (draft { privateKey, publicKey, listenPort, addresses }) := by
    refine reads_listLine
      (fun networks => draft ⟨privateKey, publicKey, listenPort, networks⟩)
      addresses fun some => ?_
    refine read_interface (by decide) (isValue_networks some) ?_
    simp only [Interface.set, String.ofList_toList, networksValue_join]
    rfl
  exact (((header.append first).append second).append third).append fourth

/-- A peer whose endpoint has its flow label set to zero. -/
def Peer.withoutFlow (peer : Peer) : Peer :=
  { peer with endpoint := peer.endpoint.map Endpoint.withoutFlow }

/-- A peer starts with its header, and its keys come first. -/
theorem reads_frontLines (draft : Draft) (peer : Peer) :
    Reads draft peer.frontLines
      ⟨draft.finish,
        .peer
          { publicKey := peer.publicKey
            presharedKey := peer.presharedKey }⟩ := by
  let next (peer : Peer) : Draft := ⟨draft.finish, .peer peer⟩
  rcases peer with ⟨publicKey, presharedKey, keepalive, endpoint, networks⟩
  have empty : Reads draft [[]] draft :=
    .single (by rw [ofText_empty]; rfl)
  have header : Reads draft ["[Peer]".toList] (next {}) :=
    .single (by rw [ofText_peer]; rfl)
  have first : Reads (next {})
      (optionalLine "PublicKey" Key.toText publicKey)
      (next { publicKey }) := by
    refine reads_optionalLine
      (fun field => next ⟨field, none, none, none, []⟩)
      publicKey fun key _ => ?_
    refine read_peer (by decide) (isValue_key key) ?_
    simp only [Peer.set, String.ofList_toList, keyValue_toText]
    rfl
  have second : Reads (next { publicKey })
      (optionalLine "PresharedKey" Key.toText presharedKey)
      (next { publicKey, presharedKey }) := by
    refine reads_optionalLine
      (fun field => next ⟨publicKey, field, none, none, []⟩)
      presharedKey fun key _ => ?_
    refine read_peer (by decide) (isValue_key key) ?_
    simp only [Peer.set, String.ofList_toList, keyValue_toText]
    rfl
  exact ((empty.append header).append first).append second

/-- The lines of a peer without scope are read as the peer. -/
theorem reads_peer (draft : Draft) {peer : Peer}
    (plain : ∀ endpoint ∈ peer.endpoint, endpoint.scope = 0) :
    Reads draft peer.toLines ⟨draft.finish, .peer peer.withoutFlow⟩ := by
  let next (peer : Peer) : Draft := ⟨draft.finish, .peer peer⟩
  have front := reads_frontLines draft peer
  rw [Peer.toLines_eq, Peer.backLines]
  rcases peer with ⟨publicKey, presharedKey, keepalive, endpoint, networks⟩
  let read := endpoint.map Endpoint.withoutFlow
  have third : Reads (next { publicKey, presharedKey })
      (optionalLine "Endpoint" Endpoint.toText endpoint)
      (next { publicKey, presharedKey, endpoint := read }) := by
    refine reads_optionalLine
      (fun field => next ⟨publicKey, presharedKey, none,
        field.map Endpoint.withoutFlow, []⟩)
      endpoint fun found equal => ?_
    refine read_peer (by decide) (isValue_endpoint found) ?_
    simp only [Peer.set, String.ofList_toList,
      endpointValue_toText (plain found equal)]
    rfl
  have fourth : Reads
      (next { publicKey, presharedKey, endpoint := read })
      (listLine "AllowedIPs" networks)
      (next { publicKey, presharedKey, endpoint := read,
              allowedIps := networks }) := by
    refine reads_listLine
      (fun list => next ⟨publicKey, presharedKey, none, read, list⟩)
      networks fun some => ?_
    refine read_peer (by decide) (isValue_networks some) ?_
    simp only [Peer.set, String.ofList_toList, networksValue_join]
    rfl
  have fifth : Reads
      (next { publicKey, presharedKey, endpoint := read,
              allowedIps := networks })
      (optionalLine "PersistentKeepalive" wordText keepalive)
      (next ⟨publicKey, presharedKey, keepalive, read, networks⟩) := by
    refine reads_optionalLine
      (fun field => next ⟨publicKey, presharedKey, field, read, networks⟩)
      keepalive fun seconds _ => ?_
    refine read_peer (by decide) (isValue_word seconds) ?_
    simp only [Peer.set, String.ofList_toList, numberValue_wordText]
    rfl
  exact front.append (third.append (fourth.append fifth))

/-- Peers without scopes are read one after the other. -/
theorem reads_peers (draft : Draft) {peers : List Peer}
    (plain : ∀ peer ∈ peers, ∀ endpoint ∈ peer.endpoint,
      endpoint.scope = 0) :
    ∃ after, Reads draft (peers.flatMap Peer.toLines) after ∧
      after.finish =
        { draft.finish with
          peers := draft.finish.peers ++ peers.map Peer.withoutFlow } := by
  induction peers generalizing draft with
  | nil =>
      refine ⟨draft, .nil draft, ?_⟩
      rw [List.map_nil, List.append_nil]
  | cons peer rest ih =>
      have first := reads_peer draft (plain peer List.mem_cons_self)
      obtain ⟨after, others, finished⟩ :=
        ih ⟨draft.finish, .peer peer.withoutFlow⟩ fun other member =>
          plain other (List.mem_cons_of_mem _ member)
      refine ⟨after, first.append others, ?_⟩
      rw [finished]
      simp [Draft.finish]

/-! ## Whole documents -/

/-- The endpoints of the peers, in order. -/
def endpoints (config : Config) : List Endpoint :=
  config.peers.filterMap (·.endpoint)

/-- A configuration whose flow labels are set to zero. -/
def withoutFlows (config : Config) : Config :=
  { config with peers := config.peers.map Peer.withoutFlow }

theorem withoutFlows_eq_iff {config : Config} :
    config.withoutFlows = config ↔
      ∀ endpoint ∈ config.endpoints, endpoint.flow = 0 := by
  have peer : ∀ peer : Peer, peer.withoutFlow = peer ↔
      ∀ endpoint ∈ peer.endpoint, endpoint.flow = 0 := by
    rintro ⟨publicKey, presharedKey, keepalive, endpoint, networks⟩
    cases endpoint with
    | none => simp [Peer.withoutFlow]
    | some found => simp [Peer.withoutFlow, Endpoint.withoutFlow_eq_iff]
  have all : config.withoutFlows = config ↔
      config.peers.map Peer.withoutFlow = config.peers.map id := by
    rw [List.map_id]
    constructor
    · exact congrArg Config.peers
    · intro same
      rw [withoutFlows, same]
  rw [all, List.map_inj_left]
  constructor
  · intro each endpoint member
    obtain ⟨owner, inPeers, found⟩ := List.mem_filterMap.1 member
    exact (peer owner).1 (each owner inPeers) endpoint found
  · intro each owner inPeers
    exact (peer owner).2 fun endpoint found =>
      each endpoint (List.mem_filterMap.2 ⟨owner, inPeers, found⟩)

variable {config : Config}

theorem isWritten_toLines {line : List Char}
    (member : line ∈ config.toLines) : IsWritten config.endpoints line := by
  rcases List.mem_append.1 member with inInterface | inPeers
  · exact isWritten_interface inInterface
  · obtain ⟨peer, inPeers, inPeer⟩ := List.mem_flatMap.1 inPeers
    refine isWritten_peer (fun endpoint found => ?_) inPeer
    exact List.mem_filterMap.2 ⟨peer, inPeers, found⟩

/-- The document has the lines that were written. -/
theorem lines_toText (config : Config) :
    Text.lines config.toText = config.toLines :=
  Text.lines_flatMap fun _ member => (isWritten_toLines member).newline_not_mem

/-- Without scopes the document is read, without the flow labels. -/
theorem parseText_toText
    (plain : ∀ endpoint ∈ config.endpoints, endpoint.scope = 0) :
    parseText config.toText = .ok config.withoutFlows := by
  have each : ∀ peer ∈ config.peers, ∀ endpoint ∈ peer.endpoint,
      endpoint.scope = 0 := fun peer member endpoint found =>
    plain endpoint (List.mem_filterMap.2 ⟨peer, member, found⟩)
  obtain ⟨after, others, finished⟩ := reads_peers
    ⟨{ interface := config.interface }, .interface⟩ each
  have all := (reads_interface config.interface).append others
  rw [parseText, documentLines, lines_toText, map_eq_ok_iff]
  refine ⟨after, readAll_eq_ok_iff.2 all, ?_⟩
  rw [finished]
  rfl

/-- Of the peers with a scope, one comes first. -/
theorem exists_first_scope
    (zoned : ∃ endpoint ∈ config.endpoints, endpoint.scope ≠ 0) :
    ∃ before peer after endpoint,
      config.peers = before ++ peer :: after ∧
        (∀ other ∈ before, ∀ found ∈ other.endpoint, found.scope = 0) ∧
        peer.endpoint = some endpoint ∧ endpoint.scope ≠ 0 := by
  obtain ⟨endpoint, member, nonzero⟩ := zoned
  obtain ⟨owner, inPeers, found⟩ := List.mem_filterMap.1 member
  let hasScope (peer : Peer) : Bool := peer.endpoint.any (·.scope ≠ 0)
  have some : (config.peers.find? hasScope).isSome := by
    rw [List.find?_isSome]
    refine ⟨owner, inPeers, ?_⟩
    simp [hasScope, found, nonzero]
  obtain ⟨peer, first⟩ := Option.isSome_iff_exists.1 some
  obtain ⟨here, before, after, whole, none⟩ :=
    List.find?_eq_some_iff_append.1 first
  obtain ⟨zone, isEndpoint, zoned⟩ := (Option.any_eq_true _ _).1 here
  refine ⟨before, peer, after, zone, whole, ?_, isEndpoint,
    of_decide_eq_true zoned⟩
  intro other inBefore earlier isEarlier
  have plain := none other inBefore
  rw [Option.mem_def] at isEarlier
  simpa [hasScope, isEarlier] using plain

/-- No peer can be read on from the line of an endpoint with a scope. -/
theorem read_scopedLine {endpoint : Endpoint} (zoned : endpoint.scope ≠ 0)
    (config : Config) (peer : Peer) :
    Draft.read ⟨config, .peer peer⟩
        (Line.ofText (entryLine "Endpoint".toList endpoint.toText)) =
      .error (.endpoint endpoint.toText) := by
  rw [ofText_entryLine (by decide) (isValue_endpoint endpoint)]
  simp only [Draft.read, Peer.set, String.ofList_toList, endpointValue,
    Endpoint.ofText?_toText_eq_none zoned]
  rfl

section FirstScope

variable {before after : List Peer} {peer : Peer} {endpoint : Endpoint}

/-- The lines around the endpoint of one of the peers. -/
theorem toLines_eq_of_peers (whole : config.peers = before ++ peer :: after)
    (found : peer.endpoint = some endpoint) :
    config.toLines =
      (config.interface.toLines ++ before.flatMap Peer.toLines ++
        peer.frontLines) ++
      entryLine "Endpoint".toList endpoint.toText ::
        (peer.backLines ++ after.flatMap Peer.toLines) := by
  rw [toLines, whole, List.flatMap_append, List.flatMap_cons,
    Peer.toLines_eq, found]
  simp [optionalLine]

/-- Before a peer no line has a scope if no earlier peer has one. -/
theorem not_isScopedLine_of_mem {interface : Interface}
    (plain : ∀ other ∈ before, ∀ found ∈ other.endpoint, found.scope = 0)
    {line : List Char}
    (member : line ∈ interface.toLines ++ before.flatMap Peer.toLines ++
      peer.frontLines) : ¬ IsScopedLine line := by
  let seen := before.filterMap (·.endpoint)
  have unscoped : ∀ other ∈ seen, other.scope = 0 := by
    intro other inSeen
    obtain ⟨owner, inBefore, isEndpoint⟩ := List.mem_filterMap.1 inSeen
    exact plain owner inBefore other isEndpoint
  have written : IsWritten seen line := by
    rcases List.mem_append.1 member with start | inFront
    · rcases List.mem_append.1 start with inInterface | inBefore
      · exact isWritten_interface inInterface
      · obtain ⟨owner, inBefore, inOwner⟩ := List.mem_flatMap.1 inBefore
        refine isWritten_peer (fun other isEndpoint => ?_) inOwner
        exact List.mem_filterMap.2 ⟨owner, inBefore, isEndpoint⟩
    · exact isWritten_frontLines inFront
  exact written.not_isScopedLine unscoped

end FirstScope

/-- With a scope the reading stops at the first line that has one. -/
theorem parseText_toText_error
    (zoned : ∃ endpoint ∈ config.endpoints, endpoint.scope ≠ 0) :
    ∃ front endpoint back,
      config.toLines =
          front ++ entryLine "Endpoint".toList endpoint.toText :: back ∧
        endpoint ∈ config.endpoints ∧ endpoint.scope ≠ 0 ∧
        (∀ line ∈ front, ¬ IsScopedLine line) ∧
        parseText config.toText =
          .error (front.length + 1, .endpoint endpoint.toText) := by
  obtain ⟨before, peer, after, endpoint, whole, plain, found, nonzero⟩ :=
    exists_first_scope zoned
  obtain ⟨draft, earlier, -⟩ := reads_peers
    ⟨{ interface := config.interface }, .interface⟩ plain
  have front := ((reads_interface config.interface).append earlier).append
    (reads_frontLines draft peer)
  have lines := toLines_eq_of_peers whole found
  refine ⟨_, endpoint, _, lines, ?_, nonzero,
    fun line => not_isScopedLine_of_mem plain, ?_⟩
  · refine List.mem_filterMap.2 ⟨peer, ?_, found⟩
    rw [whole]
    exact List.mem_append_right _ List.mem_cons_self
  · rw [parseText, documentLines, lines_toText, lines,
      front.readAll_error (read_scopedLine nonzero _ _) 1, Nat.add_comm]
    rfl

/-- A configuration that was read has neither flow labels nor scopes. -/
theorem flow_scope_of_parseText {text : List Char}
    (read : parseText text = .ok config) {endpoint : Endpoint}
    (member : endpoint ∈ config.endpoints) :
    endpoint.flow = 0 ∧ endpoint.scope = 0 := by
  obtain ⟨-, described⟩ := parseText_eq_ok_iff.1 read
  obtain ⟨peer, inPeers, found⟩ := List.mem_filterMap.1 member
  obtain ⟨block, -, isPeer⟩ := exists_of_forall₂ described.peers.flip inPeers
  have last := isPeer.endpoint
  rw [found] at last
  obtain ⟨before, value, after, -, -, spelled⟩ := last
  exact Endpoint.flow_scope_of_ofText? spelled

/--
A configuration is read back from its canonical document exactly if no endpoint
has a flow label or a scope, as is the case for all that were read from some
text.  With flow labels alone it is read back without them; with a scope, the
reading stops at the line of the first endpoint that has one.
-/
theorem parse_toString (config : Config) :
    (parse (toString config) = .ok config ↔
      ∀ endpoint ∈ config.endpoints,
        endpoint.flow = 0 ∧ endpoint.scope = 0) ∧
    (∀ text, parse text = .ok config →
      parse (toString config) = .ok config) ∧
    ((∀ endpoint ∈ config.endpoints, endpoint.scope = 0) →
      parse (toString config) = .ok config.withoutFlows) ∧
    ((∃ endpoint ∈ config.endpoints, endpoint.scope ≠ 0) →
      ∃ front endpoint back,
        Text.lines (toString config).toList =
            front ++ entryLine "Endpoint".toList endpoint.toText :: back ∧
          endpoint ∈ config.endpoints ∧ endpoint.scope ≠ 0 ∧
          (∀ line ∈ front, ¬ IsScopedLine line) ∧
          parse (toString config) =
            .error (.parse (front.length + 1)
              s!"invalid endpoint '{endpoint}'")) := by
  have text : (toString config).toList = config.toText :=
    String.toList_ofList
  have withoutScopes :
      (∀ endpoint ∈ config.endpoints, endpoint.scope = 0) →
        parse (toString config) = .ok config.withoutFlows := by
    intro plain
    rw [parse, text, parseText_toText plain]
    rfl
  have exactly : parse (toString config) = .ok config ↔
      ∀ endpoint ∈ config.endpoints,
        endpoint.flow = 0 ∧ endpoint.scope = 0 := by
    constructor
    · intro read
      have read := mapError_eq_ok_iff.1 read
      exact fun endpoint => flow_scope_of_parseText read
    · intro plain
      rw [withoutScopes fun endpoint member => (plain endpoint member).2,
        withoutFlows_eq_iff.2 fun endpoint member =>
          (plain endpoint member).1]
  refine ⟨exactly, ?_, withoutScopes, ?_⟩
  · intro other read
    have read := mapError_eq_ok_iff.1 read
    exact exactly.2 fun endpoint => flow_scope_of_parseText read
  · intro zoned
    obtain ⟨front, endpoint, back, lines, member, nonzero, first, read⟩ :=
      parseText_toText_error zoned
    refine ⟨front, endpoint, back, ?_, member, nonzero, first, ?_⟩
    · rw [text, lines_toText, lines]
    · rw [parse, text, read]
      rfl

/-- One peer: without flow label and scope, with a flow label, with a scope. -/
theorem parse_toString_onePeer :
    let one (flow scope : UInt32) : Config :=
      { peers :=
          [{ endpoint := some (.ipv6 (Octets.zero 16) 51820 flow scope) }] }
    parse (toString (one 0 0)) = .ok (one 0 0) ∧
      parse (toString (one 7 0)) = .ok (one 0 0) ∧
      ∃ line message,
        parse (toString (one 0 3)) = .error (.parse line message) := by
  intro one
  refine ⟨(parse_toString (one 0 0)).1.2 (by decide),
    (parse_toString (one 7 0)).2.2.1 (by decide), ?_⟩
  obtain ⟨front, endpoint, back, -, -, -, -, read⟩ :=
    (parse_toString (one 0 3)).2.2.2 (by decide)
  exact ⟨_, _, read⟩

end Tunnel.Config
