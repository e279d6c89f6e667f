import Tunnel.Proofs.Adapter.Readings
import Tunnel.Proofs.Image.RoundTrip

/-!
# Reading back ends

However a driver answers, an adapter asks for its configuration four times at
most.  It begins with a buffer of 4096 octets and goes on only with the longer
buffer that the driver has just asked for; every other answer is the last one,
and what comes of it is said by `Reading.Concludes`.  A driver that asks three
times at most, and otherwise hands over what can be decoded, is read.
-/

namespace Tunnel

/-- The reading that a call of a driver is. -/
def Driver.Event.reading? : Driver.Event → Option Adapter.Reading
  | .configurationRead _ buffer (answer, written) =>
      some ⟨buffer, answer, written⟩
  | _ => none

/--
Whenever a driver does not ask for a longer buffer, it hands over octets that
can be decoded.
-/
def Driver.Serves {World : Type} (driver : Driver (StateM World))
    (handle : Handle) : Prop :=
  ∀ reading, driver.Gives handle reading →
    reading.asked? ≠ none ∨ reading.HandsOver

namespace Adapter

/--
The readings of a configuration, and what comes of them: four at most, the
first into 4096 zeros and each other one into the longer buffer that was asked
for; the last one decides.
-/
structure IsReadBack (readings : List Reading)
    (result : Except Error Image.Decoded) : Prop where
  atMost : readings.length ≤ 4
  first : ∃ first, readings.head? = some first ∧
    first.buffer = List.replicate 4096 0
  grows : readings.IsChain Reading.LeadsTo
  last : ∃ last, readings.getLast? = some last ∧
    last.Concludes (readings.length = 4) result

section Growth

variable {World : Type} {adapter : Adapter} {handle : Handle}

theorem filterMap_events (handle : Handle) (readings : List Reading) :
    (readings.map (Reading.event handle)).filterMap
      Driver.Event.reading? = readings := by
  rw [List.filterMap_map]
  exact List.filterMap_some

theorem ReadsBack.isReadBack {readings : List Reading}
    {result : Except Error Image.Decoded}
    (reads : ReadsBack 4 (List.replicate 4096 0) readings result) :
    IsReadBack readings result where
  atMost := reads.length_le
  first := by
    obtain ⟨last, found, -⟩ := reads.last
    obtain ⟨first, rest, rfl⟩ := List.exists_cons_of_ne_nil
      (List.ne_nil_of_mem (List.mem_of_getLast? found))
    exact ⟨first, rfl, reads.head first rfl⟩
  grows := reads.isChain
  last := reads.last

theorem configuration_of_closed (driver : Driver (StateM World))
    (shut : adapter.handle = none) :
    adapter.configuration driver = pure (.error .invalidHandle) := by
  unfold configuration withHandle
  rw [shut]

theorem configuration_of_open (driver : Driver (StateM World))
    (has : adapter.handle = some handle) :
    adapter.configuration driver =
      readBack driver handle 4 (List.replicate 4096 0) := by
  unfold configuration withHandle
  rw [has]
  rfl

end Growth

/--
Reading a configuration ends, whatever the driver answers.  A closed adapter
asks nothing.  Otherwise the driver is asked for readings only, which are as
`IsReadBack` says; and if it asks for a longer buffer three times at most and
otherwise hands over octets that can be decoded, the configuration is read.
-/
theorem configuration_ends {World : Type} (driver : Driver (StateM World))
    (adapter : Adapter) (world : World) :
    let after := (adapter.configuration (driver.recorded id)).run
      { world, journal := [] }
    let readings := after.2.journal.filterMap Driver.Event.reading?
    (adapter.handle = none →
      after.2.journal = [] ∧ after.1 = .error .invalidHandle) ∧
    ∀ handle, adapter.handle = some handle →
      after.2.journal = readings.map (Reading.event handle) ∧
        (∀ reading ∈ readings, driver.Gives handle reading) ∧
        IsReadBack readings after.1 ∧
        (driver.Serves handle →
          (readings.filterMap Reading.asked?).length ≤ 3 →
            ∃ decoded, after.1 = .ok decoded) := by
  intro after readings
  constructor
  · intro shut
    have nothing : after =
        (.error .invalidHandle, { world, journal := [] }) := by
      show (adapter.configuration (driver.recorded id)).run _ = _
      rw [configuration_of_closed _ shut]
      rfl
    rw [nothing]
    exact ⟨rfl, rfl⟩
  · intro handle has
    obtain ⟨calls, grown, made, rfl, gives, reads⟩ :=
      yields_readBack driver handle 4 (List.replicate 4096 0)
        { world, journal := [] }
    rw [← configuration_of_open (driver.recorded id) has] at grown reads
    have journal : after.2.journal = made.map (Reading.event handle) := grown
    have same : readings = made := by
      show after.2.journal.filterMap _ = made
      rw [journal, filterMap_events]
    rw [same]
    refine ⟨journal, gives, reads.isReadBack, fun serves seldom => ?_⟩
    exact reads.succeeds (fun reading member =>
      serves reading (gives reading member)) (Nat.lt_succ_of_le seldom)

/-! ## A driver whose image grows -/

/-- The image of nothing, and so many zeros after it. -/
def swollen (zeros : Nat) : List UInt8 :=
  Image.octets {} ++ List.replicate zeros 0

/--
A driver of one adapter, whose image is followed by zeros.  It asks for room
when a buffer is too short, and until there are 4100 zeros there is one more
at the next reading.
-/
def swelling : Driver (StateM Nat) where
  create _ _ := return .ok ⟨1⟩
  openExisting _ := return .ok ⟨1⟩
  close _ := return ()
  setState _ _ := return .ok ()
  state _ := return .ok .up
  setConfiguration _ _ := return .ok ()
  configuration _ buffer := fun zeros =>
    let image := swollen zeros
    if buffer.length < image.length then
      ((.error (.bufferTooSmall image.length buffer.length), []),
        min (zeros + 1) 4100)
    else ((.ok image.length, image), zeros)
  identifier _ := return .ok ⟨1⟩
  setLogging _ _ := return .ok ()

section Swelling

variable {zeros : Nat} {buffer : List UInt8}

theorem length_swollen (zeros : Nat) :
    (swollen zeros).length = 80 + zeros := by
  rw [swollen, List.length_append, Image.length_octets,
    List.length_replicate]
  rfl

theorem swelling_of_short (short : buffer.length < (swollen zeros).length) :
    (swelling.configuration ⟨1⟩ buffer).run zeros =
      ((.error (.bufferTooSmall (swollen zeros).length buffer.length), []),
        min (zeros + 1) 4100) :=
  if_pos short

theorem swelling_of_room (room : ¬buffer.length < (swollen zeros).length) :
    (swelling.configuration ⟨1⟩ buffer).run zeros =
      ((.ok (swollen zeros).length, swollen zeros), zeros) :=
  if_neg room

theorem serves_swelling : swelling.Serves ⟨1⟩ := by
  rintro ⟨buffer, answer, written⟩ ⟨zeros, given⟩
  dsimp only at given
  by_cases short : buffer.length < (swollen zeros).length
  · rw [swelling_of_short short] at given
    cases given
    left
    rw [Reading.asked?_eq_some_iff.2 ⟨short, buffer.length, rfl⟩]
    exact Option.some_ne_none _
  · rw [swelling_of_room short] at given
    cases given
    right
    have room := Nat.le_of_not_lt short
    have taken := take_overwrite [] room
    rw [List.append_nil] at taken
    refine ⟨(swollen zeros).length, { config := {}, stats := [] }, rfl, ?_⟩
    dsimp only [Reading.left]
    rw [Nat.min_eq_left room, taken]
    exact Image.decode_octets_append ⟨by decide, by decide⟩ _

/-- What comes of reading the driver once more. -/
theorem run_readBack_swelling (limit : Nat)
    (journal : List Driver.Event) :
    let image := swollen zeros
    (readBack (swelling.recorded id) ⟨1⟩ (limit + 1) buffer).run
        { world := zeros, journal } =
      if buffer.length < image.length then
        (readBack (swelling.recorded id) ⟨1⟩ limit
          (overwrite [] buffer ++
            List.replicate (image.length - buffer.length) 0)).run
          { world := min (zeros + 1) 4100
            journal := journal ++ [.configurationRead ⟨1⟩ buffer
              (.error (.bufferTooSmall image.length buffer.length), [])] }
      else
        (Image.decode ((overwrite image buffer).take image.length),
          { world := zeros
            journal := journal ++ [.configurationRead ⟨1⟩ buffer
              (.ok image.length, image)] }) := by
  intro image
  rw [readBack]
  refine (record_bind_run _ (swelling.configuration ⟨1⟩ buffer) _ _).trans ?_
  dsimp only
  by_cases short : buffer.length < image.length
  · rw [swelling_of_short short, if_pos short]
    dsimp only
    rw [length_overwrite, if_pos short]
  · rw [swelling_of_room short, if_neg short]
    rfl

end Swelling

/-- Four readings, of which three ask for a longer buffer. -/
theorem configuration_ends_swelling :
    let after := ((ofHandle "wg0" ⟨1⟩).configuration
      (swelling.recorded id)).run { world := 4098, journal := [] }
    let readings := after.2.journal.filterMap Driver.Event.reading?
    swelling.Serves ⟨1⟩ ∧
      readings.filterMap Reading.asked? = [4178, 4179, 4180] ∧
      IsReadBack readings after.1 ∧ ∃ decoded, after.1 = .ok decoded := by
  have ends := (configuration_ends swelling (ofHandle "wg0" ⟨1⟩) 4098).2
    ⟨1⟩ rfl
  dsimp only at ends ⊢
  obtain ⟨-, -, reads, succeeds⟩ := ends
  have asks : ((((ofHandle "wg0" ⟨1⟩).configuration
      (swelling.recorded id)).run
        { world := 4098, journal := [] }).2.journal.filterMap
          Driver.Event.reading?).filterMap Reading.asked? =
        [4178, 4179, 4180] := by
    rw [configuration_of_open _ rfl]
    simp [-List.reduceReplicate, run_readBack_swelling, length_swollen,
      Driver.Event.reading?, Reading.asked?]
  refine ⟨serves_swelling, asks, reads, succeeds serves_swelling ?_⟩
  rw [asks]
  decide

end Adapter

end Tunnel
