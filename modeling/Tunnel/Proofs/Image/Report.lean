import Tunnel.Proofs.Config.Edits
import Tunnel.Proofs.Config.RoundTrip
import Tunnel.Proofs.Image.NormalForm
import Tunnel.Rehearsal.Terminal

/-!
# Reports are documents

The report on an image is the document of its configuration with comments
below it, so it is read as that document is read (`parseText_report`).  What
the report leaves out is what documents cannot say: they have no place for the
flow label of an endpoint.  From a report on an image without scopes, a
configuration is read that differs from the image's own in its flow labels
only, and it compiles to an image that reads back as the same configuration
again (`report_reads_back`).
-/

namespace Tunnel

/-! ## Comments -/

namespace Config

/-- What follows the sign of a comment does not count. -/
theorem ofText_comment (rest : List Char) :
    Line.ofText ('#' :: rest) = .skipped := by
  have front := Text.trimStart_append_cons (by decide : Text.isBlank '#' = false)
    [] rest
  exact Line.ofText_of_silent (Or.inr (Or.inl (congrArg List.head? front)))

/-- Comments below the lines of a document say nothing. -/
theorem parseText_comments {lines comments : List (List Char)}
    (single : ∀ line ∈ lines, '\n' ∉ line)
    (alsoSingle : ∀ comment ∈ comments, '\n' ∉ comment)
    (marked : ∀ comment ∈ comments, ∃ rest, comment = '#' :: rest) :
    parseText ((lines ++ comments).flatMap (· ++ ['\n'])) =
      parseText (lines.flatMap (· ++ ['\n'])) := by
  have whole := Text.lines_flatMap
    (List.forall_mem_append.2 ⟨single, alsoSingle⟩)
  have kept : ∀ (draft : Draft), ∀ line ∈ comments.map Line.ofText,
      draft.read line = .ok draft := by
    intro draft line member
    obtain ⟨comment, inComments, rfl⟩ := List.mem_map.1 member
    obtain ⟨rest, rfl⟩ := marked comment inComments
    rw [ofText_comment]
    rfl
  unfold parseText documentLines
  rw [whole, Text.lines_flatMap single, List.map_append,
    Draft.readAll_append]
  cases Draft.readAll {} 1 (lines.map Line.ofText) with
  | error fault => rfl
  | ok draft =>
      show ((draft.readAll _ _).map Draft.finish) = _
      rw [Draft.readAll_of_kept (kept draft)]

end Config

/-! ## The command that prints a report -/

namespace Command

/-- Text that was printed is the text of its octets. -/
theorem textOf_textOctets (text : String) :
    textOf (Key.textOctets text.toList) = .ok text := by
  have octets : (⟨(Key.textOctets text.toList).toArray⟩ : ByteArray) =
      text.toByteArray := by
    rw [← String.utf8Encode_toList]
    exact ByteArray.ext (List.data_toByteArray).symm
  unfold textOf String.fromUTF8?
  rw [octets, dif_pos text.isValidUTF8]
  rfl

section Decode

variable {World : Type} {host : Host (StateM World)} {file : String}
  {world : World} {image : List UInt8} {decoded : Image.Decoded}

/-- The command prints the report on an image that it can decode. -/
theorem run_decode (fetched : ((host.fetch file).run world).1 = .ok image)
    (read : Image.decode image = .ok decoded) :
    (decode host file).run.run world =
      (.ok (), ((host.print (Key.textOctets decoded.report)).run
        ((host.fetch file).run world).2).2) := by
  generalize equation : (host.fetch file).run world = outcome at fetched ⊢
  obtain ⟨result, later⟩ := outcome
  subst fetched
  have text : (String.ofList decoded.report).toList = decoded.report :=
    String.toList_ofList
  simp only [decode, ExceptT.run_bind, ExceptT.run_mk, StateT.run_bind,
    equation]
  show StateT.run (pure (Image.decode image) >>= _) later = _
  rw [pure_bind, read, ← text]
  rfl

end Decode

end Command

/-! ## Reports -/

namespace Image

theorem newline_not_mem_number (number : Nat) :
    '\n' ∉ (toString number).toList := by
  intro newline
  rw [Nat.toString_eq_repr, Nat.toList_repr] at newline
  have digit := Nat.isDigit_of_mem_toDigits (by decide) (by decide) newline
  exact absurd digit (by decide)

theorem statsLine_eq (index : Nat) (stats : PeerStats) :
    statsLine index stats =
      "# peer ".toList ++ (toString index).toList ++ ": rx ".toList ++
        (toString stats.received.toNat).toList ++ " B, ".toList ++
        "tx ".toList ++ (toString stats.sent.toNat).toList ++
        " B, ".toList ++ "last handshake ".toList ++
        (toString stats.lastHandshake.toNat).toList := by
  simp [statsLine, toString]

theorem newline_not_mem_statsLine (index : Nat) (stats : PeerStats) :
    '\n' ∉ statsLine index stats := by
  rw [statsLine_eq]
  simp only [List.mem_append, not_or]
  refine ⟨⟨⟨⟨⟨⟨⟨⟨⟨by decide, ?_⟩, by decide⟩, ?_⟩, by decide⟩, by decide⟩,
    ?_⟩, by decide⟩, by decide⟩, ?_⟩ <;> exact newline_not_mem_number _

theorem exists_statsLine_eq (index : Nat) (stats : PeerStats) :
    ∃ rest, statsLine index stats = '#' :: rest := by
  rw [statsLine_eq]
  simp only [List.append_assoc]
  exact ⟨_, rfl⟩

/-- Every comment of a report is about the counters of a peer. -/
theorem exists_of_mem_statsLines {index : Nat} {all : List PeerStats}
    {line : List Char} (member : line ∈ statsLines index all) :
    ∃ place stats, line = statsLine place stats := by
  induction all generalizing index with
  | nil => cases member
  | cons stats rest ih =>
      rcases List.mem_append.1 member with own | others
      · split at own
        · exact ⟨index, stats, List.mem_singleton.1 own⟩
        · cases own
      · exact ih others

/-- A report is read as the document of its configuration. -/
theorem parseText_report (decoded : Decoded) :
    Config.parseText decoded.report =
      Config.parseText decoded.config.toText := by
  rw [Decoded.report, Config.toText, ← List.flatMap_append]
  refine Config.parseText_comments ?_ ?_ ?_
  · exact fun line member =>
      (Config.isWritten_toLines member).newline_not_mem
  · intro line member
    obtain ⟨place, stats, rfl⟩ := exists_of_mem_statsLines member
    exact newline_not_mem_statsLine place stats
  · intro line member
    obtain ⟨place, stats, rfl⟩ := exists_of_mem_statsLines member
    exact exists_statsLine_eq place stats

/-- A report is a document exactly if that of its configuration is one. -/
theorem parse_report (decoded : Decoded) :
    Config.parse (String.ofList decoded.report) =
      Config.parse (toString decoded.config) := by
  show (Config.parseText (String.ofList decoded.report).toList).mapError _ =
    (Config.parseText (String.ofList decoded.config.toText).toList).mapError _
  rw [String.toList_ofList, String.toList_ofList, parseText_report]

/-- Without scopes a report gives the configuration without flow labels. -/
theorem parse_report_of_plain {decoded : Decoded}
    (plain : ∀ endpoint ∈ decoded.config.endpoints, endpoint.scope = 0) :
    Config.parse (String.ofList decoded.report) =
      .ok decoded.config.withoutFlows := by
  show (Config.parseText (String.ofList decoded.report).toList).mapError _ = _
  rw [String.toList_ofList, parseText_report, Config.parseText_toText plain]
  rfl

/-- Flow labels do not count for the sizes in an image. -/
theorem countsFit_withoutFlows {config : Config} (fit : CountsFit config) :
    CountsFit config.withoutFlows where
  peers := by
    rw [Config.withoutFlows, List.length_map]
    exact fit.peers
  allowedIps := by
    intro peer member
    obtain ⟨original, inPeers, rfl⟩ := List.mem_map.1 member
    exact fit.allowedIps original inPeers

/-- A configuration from an image compiles without its flow labels. -/
theorem compile_withoutFlows {image : List UInt8} {decoded : Decoded}
    (read : decode image = .ok decoded) :
    ∃ again stats, compile decoded.config.withoutFlows = .ok again ∧
      decode again = .ok ⟨decoded.config.withoutFlows, stats⟩ := by
  obtain ⟨fit, bare, -⟩ := normalForm_of_decode read
  have fit := countsFit_withoutFlows fit
  have bare : withoutAddresses decoded.config.withoutFlows =
      decoded.config.withoutFlows := by
    have none := congrArg (·.interface) bare
    rw [withoutAddresses, Config.withoutFlows]
    exact congrArg (Config.mk · _) none
  have reads := decode_octets_append fit []
  rw [List.append_nil, bare] at reads
  exact ⟨_, _, compile_of_fit fit, reads⟩

/-! ## What is printed reads back -/

/--
The report on an image whose endpoints have no scope is a document.  What is
printed can be read as text again, and the text gives the configuration of the
image without its flow labels.  That configuration compiles, and the new image
reads back as it; it is the configuration of the old image exactly if no
endpoint had a flow label.
-/
theorem report_reads_back {World : Type}
    {host : Command.Host (StateM World)} {file : String} {world : World}
    {image : List UInt8} {decoded : Decoded}
    (fetched : ((host.fetch file).run world).1 = .ok image)
    (read : decode image = .ok decoded)
    (plain : ∀ endpoint ∈ decoded.config.endpoints, endpoint.scope = 0) :
    let text := String.ofList decoded.report
    let config := decoded.config.withoutFlows
    (Command.decode host file).run.run world =
        (.ok (), ((host.print (Key.textOctets text.toList)).run
          ((host.fetch file).run world).2).2) ∧
      Command.textOf (Key.textOctets text.toList) = .ok text ∧
      Config.parse text = .ok config ∧
      (∃ again stats, compile config = .ok again ∧
        decode again = .ok ⟨config, stats⟩) ∧
      (config = decoded.config ↔
        ∀ endpoint ∈ decoded.config.endpoints, endpoint.flow = 0) := by
  intro text config
  refine ⟨?_, Command.textOf_textOctets text, parse_report_of_plain plain,
    compile_withoutFlows read, Config.withoutFlows_eq_iff⟩
  rw [Command.run_decode fetched read, String.toList_ofList]

/-- A directory with an image in which counters stand. -/
def imageDirectory : Rehearsal.Terminal where
  files := [("image", staleImage)]
  sockets := { connection := { port := 4242 } }

theorem fetch_imageDirectory :
    ((Rehearsal.Terminal.host.fetch "image").run imageDirectory).1 =
      .ok staleImage := by
  have place : imageDirectory.place false "image" = .file "image" := by
    simp [Rehearsal.Terminal.place, Rehearsal.follow]
    decide +kernel
  show imageDirectory.fetch "image" = _
  rw [Rehearsal.Terminal.fetch, place]
  rfl

theorem report_reads_back_staleImage :
    let host := Rehearsal.Terminal.host
    let decoded := staleDecoded
    let text := String.ofList decoded.report
    ((host.fetch "image").run imageDirectory).1 = .ok staleImage ∧
      decode staleImage = .ok decoded ∧
      (∀ endpoint ∈ decoded.config.endpoints, endpoint.scope = 0) ∧
      ((Command.decode host "image").run.run imageDirectory).2.output =
        Key.textOctets text.toList ∧
      Command.textOf (Key.textOctets text.toList) = .ok text ∧
      Config.parse text = .ok decoded.config := by
  intro host decoded text
  have fetched := fetch_imageDirectory
  have read := decode_staleImage
  have plain : ∀ endpoint ∈ decoded.config.endpoints,
      endpoint.scope = 0 := by
    decide
  have unlabelled : ∀ endpoint ∈ decoded.config.endpoints,
      endpoint.flow = 0 := by
    decide
  obtain ⟨printed, isText, parsed, -, same⟩ :=
    report_reads_back fetched read plain
  refine ⟨fetched, read, plain, ?_, isText, ?_⟩
  · rw [printed]
    exact List.nil_append _
  · rw [← same.2 unlabelled]
    exact parsed

/-- One peer that is reached at an endpoint with a flow label and a scope. -/
def labelledPeer (flow scope : UInt32) : Config where
  peers := [{ endpoint := some (.ipv6 (Octets.zero 16) 51820 flow scope) }]

theorem decode_labelledPeer (flow scope : UInt32) :
    compile (labelledPeer flow scope) =
        .ok (octets (labelledPeer flow scope)) ∧
      decode (octets (labelledPeer flow scope)) =
        .ok ⟨labelledPeer flow scope, [{}]⟩ := by
  have fit : CountsFit (labelledPeer flow scope) :=
    ⟨(by decide : 1 < 2 ^ 32), List.forall_mem_singleton.2
      (by decide : 0 < 2 ^ 32)⟩
  have read := decode_octets_append fit []
  rw [List.append_nil] at read
  exact ⟨compile_of_fit fit, read⟩

/--
The report on an image with a flow label is the document of another
configuration, whose image does not have it.  The report on an image with a
scope is no document.
-/
theorem report_of_labelledPeer :
    (∃ config, Config.parse (String.ofList
        (Decoded.report ⟨labelledPeer 7 0, [{}]⟩)) = .ok config ∧
      decode (octets (labelledPeer 7 0)) = .ok ⟨labelledPeer 7 0, [{}]⟩ ∧
      ∀ again other, compile config = .ok again →
        decode again = .ok other → other.config ≠ labelledPeer 7 0) ∧
    decode (octets (labelledPeer 0 3)) = .ok ⟨labelledPeer 0 3, [{}]⟩ ∧
      ∀ config, Config.parse (String.ofList
        (Decoded.report ⟨labelledPeer 0 3, [{}]⟩)) ≠ .ok config := by
  refine ⟨⟨labelledPeer 0 0, ?_, (decode_labelledPeer 7 0).2, ?_⟩,
    (decode_labelledPeer 0 3).2, ?_⟩
  · exact parse_report_of_plain (by decide)
  · intro again other compiled read
    obtain ⟨image, back⟩ := decode_labelledPeer 0 0
    rw [image] at compiled
    cases compiled
    rw [back] at read
    cases read
    decide
  · intro config
    obtain ⟨_, _, _, -, -, -, -, refused⟩ := @Config.parseText_toText_error
      (labelledPeer 0 3) (by decide)
    rw [parse_report]
    show (Config.parseText
      (String.ofList (labelledPeer 0 3).toText).toList).mapError _ ≠ _
    rw [String.toList_ofList, refused]
    exact nofun

end Image

end Tunnel
