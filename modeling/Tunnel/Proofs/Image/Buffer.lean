import Tunnel.Proofs.Image.RoundTrip

/-!
# An image in the caller's buffer

The caller gives a buffer of any length and content.  It is compared with the
size of the image before anything is written, and so are the counts with their
fields; what is then written is as long as was announced.  So compiling either
fails and leaves the buffer as it is, or puts the image at its start and
leaves what stands behind it (`compileInto_eq`).  That the written octets could
miss the announced size is an error that no configuration meets.
-/

namespace Tunnel.Image

variable {config : Config} {buffer : List UInt8}

/-! ## What can come of it -/

/-- A buffer without room for the image is refused. -/
theorem compileInto_of_short (short : buffer.length < requiredSize config) :
    compileInto config buffer =
      (.error (.bufferTooSmall (requiredSize config) buffer.length),
        buffer) :=
  if_pos short

/-- Counts that do not fit are refused before the first octet is written. -/
theorem compileInto_of_refused {error : Error}
    (room : requiredSize config ≤ buffer.length)
    (refused : counts config = .error error) :
    compileInto config buffer = (.error error, buffer) := by
  have enough : ¬ buffer.length < requiredSize config := Nat.not_lt.2 room
  simp only [compileInto, if_neg enough, refused]

/--
All that can come of compiling into a buffer: it is too small, a count is too
large, or the image stands in front of what the buffer held behind it.
-/
theorem compileInto_eq (config : Config) (buffer : List UInt8) :
    compileInto config buffer =
      if buffer.length < requiredSize config then
        (.error (.bufferTooSmall (requiredSize config) buffer.length),
          buffer)
      else
        match counts config with
        | .error error => (.error error, buffer)
        | .ok _ =>
            (.ok (requiredSize config),
              octets config ++ buffer.drop (requiredSize config)) := by
  split
  · next short => exact compileInto_of_short short
  · next enough =>
      have room : requiredSize config ≤ buffer.length := Nat.not_lt.1 enough
      cases checked : counts config with
      | error error => exact compileInto_of_refused room checked
      | ok peerCount => exact compileInto_of_fit (fit_of_counts checked) room

/-- A failure leaves the buffer as it is, and is one of two. -/
theorem failure_of_compileInto {error : Error}
    (failed : (compileInto config buffer).1 = .error error) :
    (compileInto config buffer).2 = buffer ∧
      ((buffer.length < requiredSize config ∧
          error = .bufferTooSmall (requiredSize config) buffer.length) ∨
        (¬ CountsFit config ∧ ∃ what count, error = .tooMany what count)) := by
  rw [compileInto_eq] at failed ⊢
  split at failed
  · next short =>
      rw [if_pos short]
      cases failed
      exact ⟨rfl, Or.inl ⟨short, rfl⟩⟩
  · next enough =>
      rw [if_neg enough]
      cases checked : counts config with
      | ok peerCount =>
          rw [checked] at failed
          cases failed
      | error other =>
          rw [checked] at failed
          cases failed
          refine ⟨rfl, Or.inr ⟨?_, error_of_counts checked⟩⟩
          intro fit
          rw [counts_of_fit fit] at checked
          cases checked

/-! ## The image and the rest of the buffer -/

/--
A buffer after the image of a configuration was put at its start: nothing else
has changed.
-/
structure IsFilled (config : Config) (before after : List UInt8) : Prop where
  image : compile config = .ok (after.take (requiredSize config))
  rest : after.drop (requiredSize config) =
    before.drop (requiredSize config)
  length : after.length = before.length

/-- The octets of a configuration in front of the rest of a buffer. -/
theorem isFilled_octets (fit : CountsFit config)
    (room : requiredSize config ≤ buffer.length) :
    IsFilled config buffer
      (octets config ++ buffer.drop (requiredSize config)) where
  image := by
    rw [compile_of_fit fit, ← length_octets config, List.take_left]
  rest := by
    rw [← length_octets config, List.drop_left]
  length := by
    rw [List.length_append, List.length_drop, length_octets]
    exact Nat.add_sub_of_le room

/--
Compiling a configuration whose counts fit fails exactly if the buffer is
shorter than the image, and then says so and leaves the buffer as it is.
Otherwise it answers the size of the image, which stands at the start of the
buffer, whatever the buffer held.  No count is found too large, and the octets
that were written are never found to be more or fewer than announced.
-/
theorem compileInto_fills (config : Config) (fit : CountsFit config)
    (buffer : List UInt8) :
    let required := requiredSize config
    let outcome := compileInto config buffer
    ((∃ error, outcome.1 = .error error) ↔ buffer.length < required) ∧
      (buffer.length < required →
        outcome = (.error (.bufferTooSmall required buffer.length),
          buffer)) ∧
      (required ≤ buffer.length →
        outcome.1 = .ok required ∧ IsFilled config buffer outcome.2) ∧
      (∀ expected written,
        outcome.1 ≠ .error (.sizeMismatch expected written)) ∧
      ∀ what count, outcome.1 ≠ .error (.tooMany what count) := by
  intro required outcome
  have failure : ∀ error, outcome.1 = .error error →
      buffer.length < required ∧
        error = .bufferTooSmall required buffer.length := by
    intro error failed
    rcases (failure_of_compileInto failed).2 with short | ⟨tooLarge, -⟩
    · exact short
    · exact absurd fit tooLarge
  refine ⟨⟨?_, ?_⟩, ?_, ?_, ?_, ?_⟩
  · rintro ⟨error, failed⟩
    exact (failure error failed).1
  · intro short
    exact ⟨_, congrArg Prod.fst (compileInto_of_short short)⟩
  · exact compileInto_of_short
  · intro room
    have filled : outcome = (.ok required,
        octets config ++ buffer.drop required) :=
      compileInto_of_fit fit room
    rw [filled]
    exact ⟨rfl, isFilled_octets fit room⟩
  · intro expected written failed
    exact nomatch (failure _ failed).2
  · intro what count failed
    exact nomatch (failure _ failed).2

/-- Two peers in a buffer that is one octet short, and in one with spare room. -/
theorem compileInto_fills_twoPeers :
    let short := List.replicate 399 (0x55 : UInt8)
    let roomy := List.replicate 410 (0xAA : UInt8)
    CountsFit twoPeers ∧ requiredSize twoPeers = 400 ∧
      compileInto twoPeers short =
        (.error (.bufferTooSmall 400 399), short) ∧
      (compileInto twoPeers roomy).1 = .ok 400 ∧
      IsFilled twoPeers roomy (compileInto twoPeers roomy).2 := by
  intro short roomy
  have size : requiredSize twoPeers = 400 := rfl
  have shortLength : short.length = 399 := List.length_replicate
  have roomyLength : roomy.length = 410 := List.length_replicate
  obtain ⟨-, refused, -⟩ :=
    compileInto_fills twoPeers countsFit_twoPeers short
  obtain ⟨-, -, filled, -⟩ :=
    compileInto_fills twoPeers countsFit_twoPeers roomy
  rw [size, shortLength] at refused
  rw [size, roomyLength] at filled
  refine ⟨countsFit_twoPeers, size, refused (by decide), ?_⟩
  exact filled (by decide)

end Tunnel.Image
