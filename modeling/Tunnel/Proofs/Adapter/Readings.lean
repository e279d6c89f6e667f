import Mathlib.Data.List.Chain
import Tunnel.Proofs.Journal

/-!
# Readings of an image

The image of a driver is read in a loop that the driver steers: it may answer
as it likes, write what it likes into the buffer, and ask for a longer one.
`ReadsBack` says which readings there are and what comes of them, one
constructor for each way on, and what is said of a whole loop follows by
induction: there are no more readings than the limit, every buffer is as long
as the reading before it asked for, and the last reading decides.

Buffers are lists here and have any length; how much memory there is does not
matter.
-/

namespace Tunnel

namespace Adapter

/-- Of a buffer with room for it, an image is what was written first. -/
theorem take_overwrite {image buffer : List UInt8} (beyond : List UInt8)
    (room : image.length ≤ buffer.length) :
    (overwrite (image ++ beyond) buffer).take image.length = image := by
  unfold overwrite
  rw [List.take_append_of_le_length, List.take_take, Nat.min_eq_left room,
    List.take_left']
  · rfl
  · rw [List.length_take, List.length_append]
    omega

/--
A reading of an image: the buffer that the driver was given, its answer, and
what it wrote from the start of the buffer on.
-/
structure Reading where
  buffer : List UInt8
  answer : Except Error Nat
  written : List UInt8

namespace Reading

/-- The call of the driver that a reading is. -/
def event (handle : Handle) (reading : Reading) : Driver.Event :=
  .configurationRead handle reading.buffer (reading.answer, reading.written)

/-- What the driver left in the buffer. -/
def left (reading : Reading) : List UInt8 :=
  overwrite reading.written reading.buffer

/-- The length of the longer buffer that the driver asks for. -/
def asked? (reading : Reading) : Option Nat :=
  match reading.answer with
  | .error (.bufferTooSmall required _) =>
      if reading.buffer.length < required then some required else none
  | _ => none

/-- What the driver left, with room for as much as it asks for. -/
def grown (required : Nat) (reading : Reading) : List UInt8 :=
  reading.left ++
    List.replicate (required - reading.buffer.length) 0

@[simp]
theorem length_left (reading : Reading) :
    reading.left.length = reading.buffer.length :=
  length_overwrite reading.written reading.buffer

theorem asked?_eq_some_iff {reading : Reading} {required : Nat} :
    reading.asked? = some required ↔
      reading.buffer.length < required ∧
        ∃ capacity, reading.answer =
          .error (.bufferTooSmall required capacity) := by
  constructor
  · intro asks
    unfold asked? at asks
    split at asks
    · next wanted capacity answer =>
        split at asks
        · next longer =>
            cases asks
            exact ⟨longer, capacity, answer⟩
        · cases asks
    · cases asks
  · rintro ⟨longer, capacity, answer⟩
    unfold asked?
    rw [answer]
    exact if_pos longer

/-- A longer buffer has the length that was asked for. -/
theorem length_grown {reading : Reading} {required : Nat}
    (asks : reading.asked? = some required) :
    (reading.grown required).length = required := by
  have longer := (asked?_eq_some_iff.1 asks).1
  rw [grown, List.length_append, length_left, List.length_replicate]
  omega

/--
One reading leads to another: the next buffer is strictly longer, exactly as
long as the driver asked for, and holds zeros after what the driver left.
-/
structure LeadsTo (earlier later : Reading) : Prop where
  asks : earlier.asked? = some later.buffer.length
  longer : earlier.buffer.length < later.buffer.length
  keeps : later.buffer = earlier.grown later.buffer.length

/--
What comes of the last reading: the driver has handed over octets, which are
decoded; it has failed, other than by asking for a longer buffer; or it still
asks for one, but there may be no more readings.
-/
inductive Concludes (reading : Reading) (spent : Prop) :
    Except Error Image.Decoded → Prop
  | decoded {count} (answers : reading.answer = .ok count) :
      Concludes reading spent
        (Image.decode
          (reading.left.take (min count reading.buffer.length)))
  | failed {error} (answers : reading.answer = .error error)
      (final : reading.asked? = none) :
      Concludes reading spent (.error error)
  | outgrown {required} (asks : reading.asked? = some required)
      (none : spent) :
      Concludes reading spent
        (.error (.bufferTooSmall (required + 1) required))

theorem Concludes.mono {reading : Reading} {spent other : Prop}
    {result : Except Error Image.Decoded}
    (concludes : reading.Concludes spent result) (weaker : spent → other) :
    reading.Concludes other result := by
  cases concludes with
  | decoded answers => exact .decoded answers
  | failed answers final => exact .failed answers final
  | outgrown asks none => exact .outgrown asks (weaker none)

/-- The driver hands over octets that can be decoded. -/
def HandsOver (reading : Reading) : Prop :=
  ∃ count decoded, reading.answer = .ok count ∧
    Image.decode (reading.left.take (min count reading.buffer.length)) =
      .ok decoded

end Reading

/-- Readings in a row, from a buffer on, with what comes of them. -/
inductive ReadsBack : (limit : Nat) → (buffer : List UInt8) →
    List Reading → Except Error Image.Decoded → Prop
  | spent {buffer} :
      ReadsBack 0 buffer []
        (.error (.bufferTooSmall (buffer.length + 1) buffer.length))
  | ended {limit reading result}
      (concludes : reading.Concludes False result) :
      ReadsBack (limit + 1) reading.buffer [reading] result
  | again {limit reading required rest result}
      (asks : reading.asked? = some required)
      (onward : ReadsBack limit (reading.grown required) rest result) :
      ReadsBack (limit + 1) reading.buffer (reading :: rest) result

namespace ReadsBack

variable {limit : Nat} {buffer : List UInt8} {readings : List Reading}
  {result : Except Error Image.Decoded}

theorem length_le (reads : ReadsBack limit buffer readings result) :
    readings.length ≤ limit := by
  induction reads with
  | spent => exact Nat.le_refl 0
  | ended concludes => exact Nat.le_add_left 1 _
  | again asks onward ih => exact Nat.succ_le_succ ih

theorem head (reads : ReadsBack limit buffer readings result) :
    ∀ first ∈ readings.head?, first.buffer = buffer := by
  cases reads with
  | spent => exact nofun
  | ended | again =>
      rintro first ⟨⟩
      rfl

theorem isChain (reads : ReadsBack limit buffer readings result) :
    readings.IsChain Reading.LeadsTo := by
  induction reads with
  | spent => exact .nil
  | ended concludes => exact .singleton _
  | @again limit reading required rest result asks onward ih =>
      rw [List.isChain_cons]
      refine ⟨fun later first => ?_, ih⟩
      have same := onward.head later first
      have length : later.buffer.length = required := by
        rw [same, Reading.length_grown asks]
      rw [← length] at asks same
      exact ⟨asks, (Reading.asked?_eq_some_iff.1 asks).1, same⟩

/-- If there may be a reading at all, the last one decides. -/
theorem last (reads : ReadsBack (limit + 1) buffer readings result) :
    ∃ last, readings.getLast? = some last ∧
      last.Concludes (readings.length = limit + 1) result := by
  generalize same : limit + 1 = bound at reads ⊢
  induction reads generalizing limit with
  | spent => cases same
  | @ended limit reading result concludes =>
      exact ⟨reading, rfl, concludes.mono False.elim⟩
  | @again bound reading required rest result asks onward ih =>
      cases bound with
      | zero =>
          cases onward
          refine ⟨reading, rfl, ?_⟩
          rw [Reading.length_grown asks]
          exact .outgrown asks rfl
      | succ limit =>
          obtain ⟨last, found, concludes⟩ := ih rfl
          refine ⟨last, ?_, concludes.mono (congrArg Nat.succ)⟩
          rw [List.getLast?_cons, found]
          rfl

/--
If the driver hands over octets that can be decoded whenever it does not ask
for a longer buffer, reading back succeeds, unless it asks in every reading.
-/
theorem succeeds (reads : ReadsBack limit buffer readings result)
    (hands : ∀ reading ∈ readings,
      reading.asked? ≠ none ∨ reading.HandsOver)
    (seldom : (readings.filterMap Reading.asked?).length < limit) :
    ∃ decoded, result = .ok decoded := by
  induction reads with
  | spent => cases seldom
  | @ended limit reading result concludes =>
      cases concludes with
      | decoded answers =>
          rcases hands reading List.mem_cons_self with asks |
              ⟨count, decoded, same, read⟩
          · unfold Reading.asked? at asks
            rw [answers] at asks
            exact absurd rfl asks
          · cases answers.symm.trans same
            exact ⟨decoded, read⟩
      | failed answers final =>
          rcases hands reading List.mem_cons_self with asks |
              ⟨count, decoded, same, -⟩
          · exact absurd final asks
          · cases answers.symm.trans same
      | outgrown asks none => exact none.elim
  | again asks onward ih =>
      rw [List.filterMap_cons_some asks, List.length_cons] at seldom
      exact ih (fun reading member =>
        hands reading (List.mem_cons_of_mem _ member))
          (Nat.lt_of_succ_lt_succ seldom)

end ReadsBack

end Adapter

section Readings

open Adapter

variable {World : Type}

/-- The driver gives this reading in some world. -/
def Driver.Gives (driver : Driver (StateM World)) (handle : Handle)
    (reading : Reading) : Prop :=
  ∃ world, ((driver.configuration handle reading.buffer).run world).1 =
    (reading.answer, reading.written)

/-- The loop makes readings of its driver in a row, and nothing else. -/
theorem Adapter.yields_readBack (driver : Driver (StateM World))
    (handle : Handle) (limit : Nat) (buffer : List UInt8) :
    Yields (readBack (driver.recorded id) handle limit buffer)
      fun result calls => ∃ readings,
        calls = readings.map (Reading.event handle) ∧
          (∀ reading ∈ readings, driver.Gives handle reading) ∧
          ReadsBack limit buffer readings result := by
  have reads : ∀ buffer, Yields
      ((driver.recorded id).configuration handle buffer)
      fun answer calls =>
        calls = [.configurationRead handle buffer answer] ∧
          driver.Gives handle ⟨buffer, answer.1, answer.2⟩ :=
    fun buffer before => ⟨_, rfl, rfl, before.world, rfl⟩
  induction limit generalizing buffer with
  | zero => exact yields_pure ⟨[], rfl, List.forall_mem_nil _, .spent⟩
  | succ limit ih =>
      refine (reads buffer).bind ?_
      rintro ⟨answer, written⟩ _ ⟨rfl, gives⟩
      have last : ∀ {result : Except Error Image.Decoded},
          Reading.Concludes ⟨buffer, answer, written⟩ False result →
          Yields (pure result : StateM (Recorded World Driver.Event) _)
            fun result later => ∃ readings,
              [Driver.Event.configurationRead handle buffer
                (answer, written)] ++ later =
                  readings.map (Reading.event handle) ∧
                (∀ reading ∈ readings, driver.Gives handle reading) ∧
                ReadsBack (limit + 1) buffer readings result :=
        fun concludes => yields_pure
          ⟨[⟨buffer, answer, written⟩], rfl,
            List.forall_mem_singleton.2 gives, .ended concludes⟩
      dsimp only
      split
      · next count =>
          refine last ?_
          rw [List.take_eq_take_min, length_overwrite]
          exact .decoded rfl
      · next required capacity =>
          rw [length_overwrite]
          split
          · next longer =>
              have asks : Reading.asked? ⟨buffer,
                  .error (.bufferTooSmall required capacity), written⟩ =
                    some required :=
                Reading.asked?_eq_some_iff.2 ⟨longer, capacity, rfl⟩
              refine (ih _).mono ?_
              rintro result later ⟨readings, rfl, given, onward⟩
              refine ⟨⟨buffer, _, written⟩ :: readings, rfl,
                List.forall_mem_cons.2 ⟨gives, given⟩, ?_⟩
              exact .again asks onward
          · next enough =>
              exact last (.failed rfl (if_neg enough))
      · next error other =>
          refine last (.failed rfl (Option.eq_none_iff_forall_ne_some.2 ?_))
          intro required asks
          obtain ⟨-, capacity, same⟩ := Reading.asked?_eq_some_iff.1 asks
          exact other required capacity (Except.error.inj same)

end Readings

end Tunnel
