import Mathlib.Algebra.Ring.Nat
import Tunnel.Image.Compile
import Tunnel.Proofs.Outcome

/-!
# What is written

An image in one piece is the interface record followed by the octets of each
peer.  Writing record by record into a buffer that is large enough puts exactly
this image at its start and leaves the rest alone: every step `Writes` the
octets of its record, and steps in sequence write their octets in sequence.
-/

namespace Tunnel.Image

/-! ## The image in one piece -/

/-- The octets of a peer: its record and those of its networks. -/
def peerOctets (peer : Config.Peer) : List UInt8 :=
  (peerRecord peer (UInt32.ofNat peer.allowedIps.length)).toOctets ++
    peer.allowedIps.flatMap networkRecord

/-- The octets of a configuration. -/
def octets (config : Config) : List UInt8 :=
  (interfaceRecord config.interface
      (UInt32.ofNat config.peers.length)).toOctets ++
    config.peers.flatMap peerOctets

theorem length_networkRecord (network : Prefix) :
    (networkRecord network).length = networkSize :=
  length_networkOctets _ _

theorem length_networks (networks : List Prefix) :
    (networks.flatMap networkRecord).length =
      networks.length * networkSize := by
  induction networks with
  | nil => rfl
  | cons network rest ih =>
      simp only [List.flatMap_cons, List.length_append, List.length_cons,
        length_networkRecord, ih, Nat.succ_mul]
      omega

theorem length_peerOctets (peer : Config.Peer) :
    (peerOctets peer).length = peerSize peer := by
  rw [peerOctets, List.length_append, PeerRecord.length_toOctets,
    length_networks, peerSize]

theorem length_peers (peers : List Config.Peer) (size : Nat) :
    (peers.flatMap peerOctets).length + size =
      peers.foldr (fun peer size => peerSize peer + size) size := by
  induction peers with
  | nil => exact Nat.zero_add size
  | cons peer rest ih =>
      rw [List.flatMap_cons, List.length_append, length_peerOctets,
        List.foldr_cons, ← ih, Nat.add_assoc]

/-- An image is as long as was announced. -/
theorem length_octets (config : Config) :
    (octets config).length = requiredSize config := by
  rw [octets, List.length_append, InterfaceRecord.length_toOctets,
    requiredSize, Nat.add_comm, length_peers]

/-! ## Counts -/

/-- Every count of a configuration's image fits its 32-bit field. -/
structure CountsFit (config : Config) : Prop where
  peers : config.peers.length < 2 ^ 32
  allowedIps : ∀ peer ∈ config.peers, peer.allowedIps.length < 2 ^ 32

theorem count_of_lt (what : Counted) {length : Nat}
    (fits : length < 2 ^ 32) :
    count what length = .ok (UInt32.ofNat length) :=
  if_pos fits

theorem counts_of_fit {config : Config} (fit : CountsFit config) :
    counts config = .ok (UInt32.ofNat config.peers.length) := by
  have checked : ∀ peers : List Config.Peer,
      (∀ peer ∈ peers, peer.allowedIps.length < 2 ^ 32) →
        (peers.forM fun peer => do
          let _ ← count .allowedIps peer.allowedIps.length) =
          (.ok () : Except Error Unit) := by
    intro peers small
    induction peers with
    | nil => rfl
    | cons peer rest ih =>
        have first := count_of_lt .allowedIps (small peer List.mem_cons_self)
        have others := ih fun other member =>
          small other (List.mem_cons_of_mem _ member)
        rw [List.forM_eq_forM, List.forM_cons, first]
        exact others
  unfold counts
  rw [count_of_lt .peers fit.peers]
  change ((config.peers.forM _ : Except Error Unit) >>= fun _ => _) = _
  rw [checked config.peers fit.allowedIps]
  rfl

theorem lt_of_count {what : Counted} {length : Nat} {counted : UInt32}
    (checked : count what length = .ok counted) : length < 2 ^ 32 := by
  unfold count at checked
  split at checked
  · assumption
  · cases checked

theorem fit_of_counts {config : Config} {peerCount : UInt32}
    (checked : counts config = .ok peerCount) : CountsFit config := by
  have small : ∀ peers : List Config.Peer,
      (peers.forM fun peer => do
          let _ ← count .allowedIps peer.allowedIps.length) =
          (.ok () : Except Error Unit) →
        ∀ peer ∈ peers, peer.allowedIps.length < 2 ^ 32 := by
    intro peers walked
    induction peers with
    | nil => exact List.forall_mem_nil _
    | cons peer rest ih =>
        rw [List.forM_eq_forM, List.forM_cons, bind_eq_ok_iff] at walked
        obtain ⟨_, first, others⟩ := walked
        obtain ⟨_, counted, -⟩ := bind_eq_ok_iff.1 first
        exact List.forall_mem_cons.2 ⟨lt_of_count counted, ih others⟩
  obtain ⟨_, peers, rest⟩ := bind_eq_ok_iff.1 checked
  obtain ⟨_, walked, -⟩ := bind_eq_ok_iff.1 rest
  exact ⟨lt_of_count peers, small config.peers walked⟩

theorem error_of_count {what : Counted} {length : Nat} {error : Error}
    (refused : count what length = .error error) :
    error = .tooMany what length := by
  unfold count at refused
  split at refused
  · cases refused
  · exact (Except.error.inj refused).symm

/-- Counts are refused for being too large only. -/
theorem error_of_counts {config : Config} {error : Error}
    (refused : counts config = .error error) :
    ∃ what length, error = .tooMany what length := by
  have walk : ∀ peers : List Config.Peer,
      (peers.forM fun peer => do
          let _ ← count .allowedIps peer.allowedIps.length) =
          (.error error : Except Error Unit) →
        ∃ what length, error = .tooMany what length := by
    intro peers stopped
    induction peers with
    | nil => cases stopped
    | cons peer rest ih =>
        rw [List.forM_eq_forM, List.forM_cons, bind_eq_error_iff] at stopped
        rcases stopped with first | ⟨_, -, others⟩
        · rcases bind_eq_error_iff.1 first with counted | ⟨_, -, last⟩
          · exact ⟨_, _, error_of_count counted⟩
          · cases last
        · exact ih others
  rcases bind_eq_error_iff.1 refused with peers | ⟨_, -, rest⟩
  · exact ⟨_, _, error_of_count peers⟩
  · rcases bind_eq_error_iff.1 rest with walked | ⟨_, -, last⟩
    · exact walk config.peers walked
    · cases last

/-! ## Steps of writing -/

/-- The buffer that holds what was written, and then the rest. -/
def Writer.after (written rest : List UInt8) : Writer where
  buffer := written ++ rest
  position := written.length

/-- A step writes exactly some octets, wherever there is room for them. -/
def Writes (step : Writing Unit) (record : List UInt8) : Prop :=
  ∀ written rest, record.length ≤ rest.length →
    step.run.run (Writer.after written rest) =
      (.ok (), Writer.after (written ++ record) (rest.drop record.length))

theorem run_put (record : List UInt8) (writer : Writer) :
    (put record).run.run writer =
      if writer.buffer.length < writer.position + record.length then
        (.error (.sizeMismatch writer.buffer.length
          (writer.position + record.length)), writer)
      else
        (.ok (), {
          buffer :=
            writer.buffer.take writer.position ++ record ++
              writer.buffer.drop (writer.position + record.length)
          position := writer.position + record.length }) := by
  change
    (if _ then throw _ else set _ : Writing Unit).run.run writer = _
  split <;> rfl

theorem writes_put (record : List UInt8) : Writes (put record) record := by
  intro written rest room
  have enough :
      ¬(written ++ rest).length < written.length + record.length := by
    simp only [List.length_append]
    omega
  rw [run_put, Writer.after, if_neg enough]
  simp [Writer.after]

namespace Writes

theorem nothing : Writes (pure ()) [] := by
  intro written rest _
  rw [List.append_nil]
  rfl

theorem andThen {first second : Writing Unit} {front back : List UInt8}
    (firstWrites : Writes first front) (secondWrites : Writes second back) :
    Writes (first >>= fun _ => second) (front ++ back) := by
  intro written rest room
  rw [List.length_append] at room
  have begun := firstWrites written rest (by omega)
  have ended := secondWrites (written ++ front) (rest.drop front.length)
    (by rw [List.length_drop]; omega)
  rw [ExceptT.run_bind, StateT.run_bind, begun]
  rw [List.append_assoc, List.drop_drop, ← List.length_append] at ended
  exact ended

theorem forM {α : Type} {items : List α} {step : α → Writing Unit}
    {record : α → List UInt8}
    (each : ∀ item ∈ items, Writes (step item) (record item)) :
    Writes (items.forM step) (items.flatMap record) := by
  induction items with
  | nil => exact nothing
  | cons item rest ih =>
      rw [List.forM_eq_forM, List.forM_cons, List.flatMap_cons]
      exact (each item List.mem_cons_self).andThen
        (ih fun other member => each other (List.mem_cons_of_mem _ member))

end Writes

/-! ## Whole images -/

theorem writes_putPeer {peer : Config.Peer}
    (fits : peer.allowedIps.length < 2 ^ 32) :
    Writes (putPeer peer) (peerOctets peer) := by
  have counted : putPeer peer =
      (put (peerRecord peer
          (UInt32.ofNat peer.allowedIps.length)).toOctets >>= fun _ =>
        peer.allowedIps.forM fun network => put (networkRecord network)) := by
    unfold putPeer
    rw [count_of_lt .allowedIps fits]
    exact pure_bind _ _
  rw [counted]
  exact (writes_put _).andThen
    (Writes.forM fun network _ => writes_put (networkRecord network))

theorem writes_putConfig {config : Config} (fit : CountsFit config) :
    Writes (putConfig config (UInt32.ofNat config.peers.length))
      (octets config) :=
  (writes_put _).andThen
    (Writes.forM fun peer member => writes_putPeer (fit.allowedIps peer member))

/-- A buffer with enough room holds the image, and then what it held. -/
theorem compileInto_of_fit {config : Config} {buffer : List UInt8}
    (fit : CountsFit config)
    (room : requiredSize config ≤ buffer.length) :
    compileInto config buffer =
      (.ok (requiredSize config),
        octets config ++ buffer.drop (requiredSize config)) := by
  have size := length_octets config
  have written := writes_putConfig fit [] buffer (by rw [size]; exact room)
  rw [List.nil_append] at written
  have begun : ({ buffer := buffer } : Writer) = Writer.after [] buffer := rfl
  unfold compileInto
  rw [if_neg (by omega), counts_of_fit fit]
  simp only [begun, written]
  simp [Writer.after, size]

/-- The image of a configuration is its octets. -/
theorem compile_of_fit {config : Config} (fit : CountsFit config) :
    compile config = .ok (octets config) := by
  have room : requiredSize config ≤
      (List.replicate (requiredSize config) (0 : UInt8)).length := by
    simp
  unfold compile
  rw [compileInto_of_fit fit room]
  simp [← length_octets config]

/-- The image of a configuration is its octets, if its counts fit. -/
theorem compile_eq_ok_iff {config : Config} {image : List UInt8} :
    compile config = .ok image ↔
      CountsFit config ∧ image = octets config := by
  constructor
  · intro compiled
    have fit : CountsFit config := by
      cases checked : counts config with
      | ok peerCount => exact fit_of_counts checked
      | error error =>
          simp [compile, compileInto, checked] at compiled
    rw [compile_of_fit fit] at compiled
    exact ⟨fit, (Except.ok.inj compiled).symm⟩
  · rintro ⟨fit, rfl⟩
    exact compile_of_fit fit

/-- Compiling fails only where a count is too large. -/
theorem error_of_compile {config : Config} {error : Error}
    (failed : compile config = .error error) :
    ∃ what length, error = .tooMany what length := by
  cases checked : counts config with
  | ok peerCount =>
      rw [compile_of_fit (fit_of_counts checked)] at failed
      cases failed
  | error other =>
      simp only [compile, compileInto, checked, List.length_replicate,
        Nat.lt_irrefl, if_false] at failed
      cases failed
      exact error_of_counts checked

end Tunnel.Image
