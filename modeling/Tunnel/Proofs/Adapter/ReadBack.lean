import Tunnel.Proofs.Adapter.Course
import Tunnel.Proofs.Config.RoundTrip
import Tunnel.Proofs.Image.RoundTrip

/-!
# What was applied is read back

A driver that keeps the image that it took last hands it over when it is given
a buffer with room for it, and otherwise says how much room is needed.  Then
the second reading succeeds at the latest, whatever the size of the image, and
of the buffer exactly the octets of the image are decoded.
-/

namespace Tunnel

/--
In every world a driver keeps the image that it took last for a handle.  It
copies it into a buffer with room for it, and of any other buffer it says how
much room is needed.
-/
structure Driver.Keeps {World : Type} (driver : Driver (StateM World))
    (handle : Handle) (kept : World → Option (List UInt8)) : Prop where
  takes : ∀ image world,
    let after := (driver.setConfiguration handle image).run world
    kept after.2 =
      match after.1 with
      | .ok () => some image
      | .error _ => kept world
  raises : ∀ state world,
    kept ((driver.setState handle state).run world).2 = kept world
  copies : ∀ image buffer world, kept world = some image →
    image.length ≤ buffer.length →
    ∃ beyond, ((driver.configuration handle buffer).run world).1 =
      (.ok image.length, image ++ beyond)
  asks : ∀ image buffer world, kept world = some image →
    buffer.length < image.length →
    let after := (driver.configuration handle buffer).run world
    (∃ capacity written, after.1 =
      (.error (.bufferTooSmall image.length capacity), written)) ∧
      kept after.2 = some image

namespace Adapter

section ReadBack

variable {World : Type} {driver : Driver (StateM World)} {handle : Handle}
  {kept : World → Option (List UInt8)} {world : World}
  {image buffer : List UInt8}

theorem readBack_of_room (keeps : driver.Keeps handle kept) (limit : Nat)
    (held : kept world = some image) (room : image.length ≤ buffer.length) :
    ((readBack driver handle (limit + 1) buffer).run world).1 =
      Image.decode image := by
  obtain ⟨beyond, copied⟩ := keeps.copies image buffer world held room
  rw [readBack, run_bind, copied]
  dsimp only
  rw [take_overwrite beyond room]
  rfl

/-- The first buffer may be too small, but the second is not. -/
theorem readBack_of_kept (keeps : driver.Keeps handle kept) (limit : Nat)
    (held : kept world = some image) :
    ((readBack driver handle (limit + 2) buffer).run world).1 =
      Image.decode image := by
  by_cases room : image.length ≤ buffer.length
  · exact readBack_of_room keeps (limit + 1) held room
  · have short := Nat.lt_of_not_le room
    obtain ⟨⟨capacity, written, asked⟩, still⟩ :=
      keeps.asks image buffer world held short
    rw [readBack, run_bind, asked]
    dsimp only
    rw [if_pos (by rw [length_overwrite]; exact short)]
    refine readBack_of_room keeps limit still (Nat.le_of_eq ?_)
    rw [List.length_append, List.length_replicate]
    exact (Nat.add_sub_cancel' (by rw [length_overwrite]; omega)).symm

/-- An adapter reads back what its driver keeps. -/
theorem configuration_of_kept {adapter : Adapter}
    (keeps : driver.Keeps handle kept) (has : adapter.handle = some handle)
    (held : kept world = some image) :
    ((adapter.configuration driver).run world).1 = Image.decode image := by
  unfold configuration withHandle
  rw [has]
  exact readBack_of_kept keeps 2 held

/-- Reading and compiling never fail as bringing an adapter up does. -/
theorem prepare_ne_notBroughtUp (document : String) (error : Error) :
    prepare document ≠ .error (.notBroughtUp error) := by
  intro failed
  rcases bind_eq_error_iff.1 failed with unread | ⟨config, -, rest⟩
  · unfold Config.parse at unread
    cases found : Config.parseText document.toList with
    | ok config =>
        rw [found] at unread
        cases unread
    | error fault =>
        rw [found] at unread
        cases unread
  · rcases bind_eq_error_iff.1 rest with uncompiled | ⟨image, -, last⟩
    · obtain ⟨what, length, same⟩ := Image.error_of_compile uncompiled
      cases same
    · cases last

end ReadBack

/--
After a document was applied, to the point that at most the adapter did not
come up, the adapter reads back the configuration of the document without its
addresses and with nothing counted, whatever its size.  The driver keeps the
image that it took last and hands it over; it does not itself say of an image
that it refuses that the adapter is not up.
-/
theorem reads_back_applied {World : Type} {driver : Driver (StateM World)}
    {handle : Handle} {kept : World → Option (List UInt8)}
    (keeps : driver.Keeps handle kept) {adapter : Adapter}
    (has : adapter.handle = some handle) (document : String) (world : World)
    (frank : ∀ image error,
      ((driver.setConfiguration handle image).run world).1 ≠
        .error (.notBroughtUp error)) :
    let applied := (adapter.apply driver document).run world
    HasTaken applied.1.1 → ∃ config, Config.parse document = .ok config ∧
      ((applied.1.2.configuration driver).run applied.2).1 =
        .ok {
          config := Image.withoutAddresses config
          stats := List.replicate config.peers.length {} } := by
  dsimp only
  intro taken
  cases prepared : prepare document with
  | error error =>
      rw [run_apply_unready has prepared] at taken
      rcases taken with ⟨config, same⟩ | ⟨inner, same⟩
      · cases same
      · cases same
        exact absurd prepared (prepare_ne_notBroughtUp document inner)
  | ok ready =>
      obtain ⟨config, image⟩ := ready
      obtain ⟨read, compiled⟩ := prepare_eq_ok_iff.1 prepared
      obtain ⟨fit, rfl⟩ := Image.compile_eq_ok_iff.1 compiled
      have holds := keeps.takes (Image.octets config) world
      dsimp only at holds
      cases answer : ((driver.setConfiguration handle
          (Image.octets config)).run world).1 with
      | error error =>
          rw [run_apply_declined has prepared answer] at taken
          rcases taken with ⟨other, same⟩ | ⟨inner, same⟩
          · cases same
          · -- Context leaves this error as it is, so it is the driver's own.
            cases error with
            | notBroughtUp other => exact absurd answer (frank _ other)
            | _ => cases same
      | ok _ =>
          rw [answer] at holds
          rw [run_apply_taken has prepared answer]
          have still := (keeps.raises .up _).trans holds
          refine ⟨config, read, ?_⟩
          have image := Image.decode_octets_append fit []
          rw [List.append_nil] at image
          rw [← image]
          exact configuration_of_kept keeps has still

/-! ## Drivers that keep an image -/

theorem keeps_keeper : keeper.Keeps ⟨1⟩ id where
  takes _ _ := rfl
  raises _ _ := rfl
  copies image buffer world held room := by
    cases held
    exact ⟨[], by simp [keeper, StateT.run, Nat.not_lt.2 room]⟩
  asks image buffer world held short := by
    cases held
    refine ⟨⟨buffer.length, [], ?_⟩, ?_⟩ <;>
      simp [keeper, StateT.run, short]

/-- So many peers that the first buffer is too small for their image. -/
def crowd : Config where
  peers := List.replicate 40 {}

theorem parse_crowd : Config.parse (toString crowd) = .ok crowd := by
  have plain : ∀ endpoint ∈ crowd.endpoints, endpoint.scope = 0 := by decide
  have read := Config.parseText_toText plain
  rw [Config.parse, show (toString crowd).toList = crowd.toText from
    String.toList_ofList, read]
  rfl

theorem reads_back_applied_crowd :
    let applied := ((ofHandle "wg0" ⟨1⟩).apply keeper (toString crowd)).run
      none
    firstBufferSize < Image.requiredSize crowd ∧ keeper.Keeps ⟨1⟩ id ∧
      HasTaken applied.1.1 ∧
      ((applied.1.2.configuration keeper).run applied.2).1 =
        .ok { config := crowd, stats := List.replicate 40 {} } := by
  have fit : Image.CountsFit crowd := ⟨by decide, by decide⟩
  have prepared : prepare (toString crowd) =
      .ok (crowd, Image.octets crowd) :=
    prepare_eq_ok_iff.2 ⟨parse_crowd, Image.compile_of_fit fit⟩
  have has : (ofHandle "wg0" ⟨1⟩).handle = some ⟨1⟩ := rfl
  have takes : ((keeper.setConfiguration ⟨1⟩
      (Image.octets crowd)).run none).1 = .ok () := rfl
  have taken : HasTaken (((ofHandle "wg0" ⟨1⟩).apply keeper
      (toString crowd)).run none).1.1 := by
    rw [run_apply_taken has prepared takes]
    exact Or.inl ⟨crowd, rfl⟩
  obtain ⟨config, read, back⟩ :=
    reads_back_applied keeps_keeper has (toString crowd) none
      (fun _ _ => nofun) taken
  rw [parse_crowd] at read
  rw [← Except.ok.inj read] at back
  exact ⟨by decide, keeps_keeper, taken, back⟩

/--
A driver that keeps the image that it took last, but takes no image and says
that this is only because the adapter is not up.
-/
def evasive : Driver (StateM (Option (List UInt8))) :=
  { keeper with
    setConfiguration := fun _ _ => return .error (.notBroughtUp .unavailable) }

theorem keeps_evasive : evasive.Keeps ⟨1⟩ id where
  takes _ _ := rfl
  raises _ _ := rfl
  copies := keeps_keeper.copies
  asks := keeps_keeper.asks

/-- What was taken before is read back, and not what was applied. -/
theorem evasive_reads_back_earlier :
    let earlier : Config := { interface := { listenPort := some 1 } }
    let applied := ((ofHandle "wg0" ⟨1⟩).apply evasive "").run
      (some (Image.octets earlier))
    evasive.Keeps ⟨1⟩ id ∧ HasTaken applied.1.1 ∧
      ¬∃ config, Config.parse "" = .ok config ∧
        ((applied.1.2.configuration evasive).run applied.2).1 =
          .ok {
            config := Image.withoutAddresses config
            stats := List.replicate config.peers.length {} } := by
  intro earlier applied
  refine ⟨keeps_evasive, Or.inr ⟨.unavailable, rfl⟩, ?_⟩
  rintro ⟨config, read, back⟩
  have empty : Config.parse "" = .ok {} := rfl
  cases empty.symm.trans read
  have fit : Image.CountsFit earlier := ⟨by decide, by decide⟩
  have image := Image.decode_octets_append fit []
  rw [List.append_nil] at image
  have found : ((applied.1.2.configuration evasive).run applied.2).1 =
      Image.decode (Image.octets earlier) :=
    configuration_of_kept keeps_evasive rfl rfl
  rw [found, image] at back
  exact absurd back (by decide)

end Adapter

end Tunnel
