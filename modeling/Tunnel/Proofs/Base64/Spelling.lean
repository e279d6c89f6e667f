import Mathlib.Tactic.Ring
import Mathlib.Tactic.SplitIfs
import Tunnel.Proofs.Base64
import Tunnel.Proofs.Octets
import Tunnel.Proofs.Outcome

/-!
# Octets have one spelling

Base64 is read strictly, so a text that can be read is the text that is
written for its octets (`decode_eq_ok_iff`): symbols come from their values
and no other characters have one, padding stands at the end of the last group
only, and no bits are left over there.

What is written spells the bits of the octets, six at a time and with zeros
behind them (`exists_spells`).
-/

namespace Tunnel.Base64

/-! ## Characters that were read -/

/-- A character that has a value is the symbol of the value. -/
theorem symbol_of_value? {octet : UInt8} {value : Nat}
    (found : value? octet = some value) : symbol value = octet := by
  apply UInt8.toNat_inj.1
  unfold value? at found
  unfold symbol
  dsimp only at found
  split_ifs at found with upper lower digit plus slash
  all_goals cases found
  · rw [if_pos (by omega), UInt8.toNat_ofNat']
    omega
  · rw [if_neg (by omega), if_pos (by omega), UInt8.toNat_ofNat']
    omega
  · rw [if_neg (by omega), if_neg (by omega), if_pos (by omega),
      UInt8.toNat_ofNat']
    omega
  · exact plus.symm
  · exact slash.symm

/-- A stretch that can be read holds the symbols of its values. -/
theorem frontValues_eq_ok {text : List UInt8} {offset : Nat}
    {values : List Nat} (read : frontValues offset text = .ok values) :
    text = values.map symbol ∧ ∀ value ∈ values, value < 64 := by
  induction text generalizing offset values with
  | nil =>
      cases read
      exact ⟨rfl, List.forall_mem_nil _⟩
  | cons octet rest ih =>
      rw [frontValues] at read
      cases found : value? octet with
      | none =>
          rw [found] at read
          cases read
      | some value =>
          rw [found] at read
          cases others : frontValues (offset + 1) rest with
          | error fault =>
              rw [others] at read
              cases read
          | ok more =>
              rw [others] at read
              cases read
              obtain ⟨same, small⟩ := ih others
              refine ⟨?_, List.forall_mem_cons.2 ⟨value?_lt found, small⟩⟩
              rw [List.map_cons, symbol_of_value? found, ← same]

/--
A last group that can be read holds the symbols of its values and then its
padding.
-/
theorem tailValues_eq_ok {text : List UInt8} {start index : Nat}
    {tail final : Tail}
    (read : tailValues start index tail text = .ok final) :
    ∃ values padding, final.values = tail.values ++ values ∧
      final.padding = tail.padding + padding ∧
      text = values.map symbol ++ List.replicate padding pad ∧
      (∀ value ∈ values, value < 64) ∧ (tail.padding ≠ 0 → values = []) := by
  induction text generalizing index tail with
  | nil =>
      cases read
      exact ⟨[], 0, (List.append_nil _).symm, rfl, rfl, List.forall_mem_nil _,
        fun _ => rfl⟩
  | cons octet rest ih =>
      rw [tailValues] at read
      by_cases padded : octet = pad
      · rw [if_pos padded] at read
        split at read
        · cases read
        · -- No symbol comes after padding.
          obtain ⟨values, padding, same, more, rfl, small, none⟩ := ih read
          obtain rfl := none (Nat.succ_ne_zero _)
          refine ⟨[], padding + 1, same, ?_, ?_, small, fun _ => rfl⟩
          · rw [more, Nat.add_assoc, Nat.add_comm 1]
          · rw [padded, List.replicate_succ]
            rfl
      · rw [if_neg padded] at read
        split at read
        · cases read
        · next unpadded =>
            cases found : value? octet with
            | none =>
                rw [found] at read
                cases read
            | some value =>
                rw [found] at read
                obtain ⟨values, padding, same, more, rfl, small, -⟩ := ih read
                refine ⟨value :: values, padding, ?_, more, ?_,
                  List.forall_mem_cons.2 ⟨value?_lt found, small⟩,
                  fun late => absurd late unpadded⟩
                · rw [same, List.append_assoc, List.singleton_append]
                · rw [List.map_cons, symbol_of_value? found, List.cons_append]

/-! ## Groups that are written back -/

theorem encode_three {first second third fourth : Nat}
    (firstSmall : first < 64) (secondSmall : second < 64)
    (thirdSmall : third < 64) (fourthSmall : fourth < 64)
    (rest : List Nat) :
    encode (octetsOf (first :: second :: third :: fourth :: rest)) =
      symbol first :: symbol second :: symbol third :: symbol fourth ::
        encode (octetsOf rest) := by
  let group := 262144 * first + 4096 * second + 64 * third + fourth
  have high : (UInt8.ofNat (group / 65536)).toNat = group / 65536 := by
    rw [UInt8.toNat_ofNat']
    omega
  have same : 65536 * (UInt8.ofNat (group / 65536)).toNat +
      256 * (UInt8.ofNat (group / 256)).toNat +
        (UInt8.ofNat group).toNat = group := by
    rw [high, UInt8.toNat_ofNat', UInt8.toNat_ofNat']
    omega
  have firstSame : group / 262144 = first := by omega
  have secondSame : group / 4096 % 64 = second := by omega
  have thirdSame : group / 64 % 64 = third := by omega
  have fourthSame : group % 64 = fourth := by omega
  rw [octetsOf, encode, same, firstSame, secondSame, thirdSame, fourthSame]

theorem encode_two {first second third : Nat} (firstSmall : first < 64)
    (secondSmall : second < 64) (thirdSmall : third < 64)
    (spare : third % 4 = 0) :
    encode (octetsOf [first, second, third]) =
      [symbol first, symbol second, symbol third, pad] := by
  let group := 4096 * first + 64 * second + third
  have same : 1024 * (UInt8.ofNat (group / 1024)).toNat +
      4 * (UInt8.ofNat (group / 4)).toNat = group := by
    rw [UInt8.toNat_ofNat', UInt8.toNat_ofNat']
    omega
  have firstSame : group / 4096 = first := by omega
  have secondSame : group / 64 % 64 = second := by omega
  have thirdSame : group % 64 = third := by omega
  rw [octetsOf, encode, same, firstSame, secondSame, thirdSame]

theorem encode_one {first second : Nat} (firstSmall : first < 64)
    (secondSmall : second < 64) (spare : second % 16 = 0) :
    encode (octetsOf [first, second]) =
      [symbol first, symbol second, pad, pad] := by
  let group := 64 * first + second
  have same : 16 * (UInt8.ofNat (group / 16)).toNat = group := by
    rw [UInt8.toNat_ofNat']
    omega
  have firstSame : group / 64 = first := by omega
  have secondSame : group % 64 = second := by omega
  rw [octetsOf, encode, same, firstSame, secondSame]

/-- Whole groups are written back as their symbols. -/
theorem encode_octetsOf_append {front : List Nat}
    (small : ∀ value ∈ front, value < 64) (whole : front.length % 4 = 0)
    (rest : List Nat) :
    encode (octetsOf (front ++ rest)) =
      front.map symbol ++ encode (octetsOf rest) := by
  induction front using octetsOf.induct with
  | case1 first second third fourth front ih =>
      simp only [List.forall_mem_cons] at small
      obtain ⟨firstSmall, secondSmall, thirdSmall, fourthSmall, others⟩ :=
        small
      simp only [List.length_cons] at whole
      have more := ih others (by omega)
      simp only [List.cons_append, List.map_cons]
      rw [encode_three firstSmall secondSmall thirdSmall fourthSmall, more]
  | case2 => simp at whole
  | case3 => simp at whole
  | case4 front noGroup noThree noTwo =>
      match front with
      | [] => rfl
      | [_] => simp at whole
      | [first, second] => exact absurd rfl (noTwo first second)
      | [first, second, third] => exact absurd rfl (noThree first second third)
      | first :: second :: third :: fourth :: rest =>
          exact absurd rfl (noGroup first second third fourth rest)

/-- A last group that can be read is written back as it was. -/
theorem encode_octetsOf_last {values : List Nat} {padding : Nat}
    (small : ∀ value ∈ values, value < 64) (atLeast : 2 ≤ values.length)
    (whole : padding + values.length = 4) (spare : spareBits values = 0) :
    encode (octetsOf values) =
      values.map symbol ++ List.replicate padding pad := by
  match values with
  | [] | [_] => simp at atLeast
  | [first, second] =>
      simp only [List.forall_mem_cons] at small
      obtain rfl : padding = 2 := by simpa using whole
      exact encode_one small.1 small.2.1 spare
  | [first, second, third] =>
      simp only [List.forall_mem_cons] at small
      obtain rfl : padding = 1 := by simpa using whole
      exact encode_two small.1 small.2.1 small.2.2.1 spare
  | [first, second, third, fourth] =>
      simp only [List.forall_mem_cons] at small
      obtain rfl : padding = 0 := by simpa using whole
      exact encode_three small.1 small.2.1 small.2.2.1 small.2.2.2.1 []
  | first :: second :: third :: fourth :: fifth :: rest =>
      simp only [List.length_cons] at whole
      omega

/-! ## Texts that were read -/

/-- What it takes for a text to be read. -/
theorem decode_eq_ok {text octets : List UInt8}
    (read : decode text = .ok octets) :
    let start := tailStart text.length
    ∃ front, frontValues 0 (text.take start) = .ok front ∧
      ∃ tail, tailValues start 0 {} (text.drop start) = .ok tail ∧
        (text ≠ [] → 2 ≤ tail.values.length) ∧
        (tail.padding + tail.values.length) % 4 = 0 ∧
        spareBits tail.values = 0 ∧
        octetsOf (front ++ tail.values) = octets := by
  unfold decode at read
  dsimp only at read
  split at read
  on_goal 1 => replace read := (check_eq_ok_iff.1 read).2
  all_goals
    simpa only [check_eq_ok_iff, bind_eq_ok_iff, not_and, Nat.not_lt,
      Decidable.not_not, pure, Except.pure, Except.ok.injEq] using read

/-- The last group of a text has between one and four characters. -/
theorem tailStart_bounds {length : Nat} (some : 0 < length) :
    tailStart length % 4 = 0 ∧ tailStart length < length ∧
      length ≤ tailStart length + 4 := by
  unfold tailStart
  split <;> omega

/-- A text that can be read is written back as it was. -/
theorem encode_of_decode {text octets : List UInt8}
    (read : decode text = .ok octets) : encode octets = text := by
  obtain ⟨front, readFront, tail, readTail, atLeast, whole, spare, rfl⟩ :=
    decode_eq_ok read
  by_cases empty : text = []
  · subst empty
    cases readFront
    cases readTail
    rfl
  · obtain ⟨sameFront, smallFront⟩ := frontValues_eq_ok readFront
    obtain ⟨values, padding, sameValues, samePadding, sameTail, small, -⟩ :=
      tailValues_eq_ok readTail
    have start := tailStart_bounds (List.length_pos_of_ne_nil empty)
    have lengthFront := congrArg List.length sameFront
    have lengthTail := congrArg List.length sameTail
    simp only [List.length_take, List.length_drop, List.length_map,
      List.length_append, List.length_replicate] at lengthFront lengthTail
    simp only [List.nil_append, Nat.zero_add] at sameValues samePadding
    rw [samePadding, sameValues] at whole
    rw [sameValues] at atLeast spare ⊢
    -- A count of one to four that is divisible by four.
    have four : padding + values.length = 4 := by omega
    calc encode (octetsOf (front ++ values))
      _ = front.map symbol ++ encode (octetsOf values) :=
          encode_octetsOf_append smallFront (by omega) values
      _ = front.map symbol ++
            (values.map symbol ++ List.replicate padding pad) := by
          rw [encode_octetsOf_last small (atLeast empty) four spare]
      _ = text.take (tailStart text.length) ++
            text.drop (tailStart text.length) := by
          rw [← sameFront, ← sameTail]
      _ = text := List.take_append_drop _ text

/-- Octets have one spelling. -/
theorem decode_eq_ok_iff {text octets : List UInt8} :
    decode text = .ok octets ↔ text = encode octets := by
  constructor
  · intro read
    exact (encode_of_decode read).symm
  · rintro rfl
    exact decode_encode octets

/-! ## The bits of a text -/

/-- The number that six-bit values spell, most significant first. -/
def sextetValue : List Nat → Nat
  | [] => 0
  | value :: rest => 64 ^ rest.length * value + sextetValue rest

/--
Six-bit values spell octets: they are as many as the bits of the octets need,
and beside these bits, which come first, they have zeros only.
-/
structure Spells (values : List Nat) (octets : List UInt8) (spare : Nat) :
    Prop where
  small : ∀ value ∈ values, value < 64
  room : 64 ^ values.length = 256 ^ octets.length * 2 ^ spare
  same : sextetValue values = bigEndianValue octets * 2 ^ spare

/--
What is written for octets are the symbols of values that spell them, and one
padding character for each two bits that are not used.
-/
theorem exists_spells (octets : List UInt8) :
    ∃ values, encode octets = values.map symbol ++
        List.replicate (2 * octets.length % 3) pad ∧
      Spells values octets (2 * (2 * octets.length % 3)) := by
  fun_induction encode octets with
  | case1 first second third rest group ih =>
      obtain ⟨values, written, spells⟩ := ih
      have firstSmall := first.toNat_lt
      have secondSmall := second.toNat_lt
      have thirdSmall := third.toNat_lt
      have padding : 2 * (first :: second :: third :: rest).length % 3 =
          2 * rest.length % 3 := by
        simp only [List.length_cons]
        omega
      -- Four times six bits are three times eight.
      have whole : 262144 * (group / 262144) + 4096 * (group / 4096 % 64) +
          64 * (group / 64 % 64) + group % 64 = group := by
        omega
      rw [padding]
      refine ⟨group / 262144 :: group / 4096 % 64 :: group / 64 % 64 ::
        group % 64 :: values, ?_, ?_, ?_, ?_⟩
      · rw [written]
        rfl
      · simp only [List.forall_mem_cons]
        exact ⟨by omega, by omega, by omega, by omega, spells.small⟩
      · simp only [List.length_cons, Nat.pow_succ]
        rw [spells.room]
        ring
      · calc sextetValue (group / 262144 :: group / 4096 % 64 ::
              group / 64 % 64 :: group % 64 :: values)
          _ = 64 ^ values.length * (262144 * (group / 262144) +
                4096 * (group / 4096 % 64) + 64 * (group / 64 % 64) +
                  group % 64) + sextetValue values := by
              simp only [sextetValue, List.length_cons, Nat.pow_succ]
              ring
          _ = 256 ^ rest.length * 2 ^ (2 * (2 * rest.length % 3)) * group +
                bigEndianValue rest *
                  2 ^ (2 * (2 * rest.length % 3)) := by
              rw [whole, spells.room, spells.same]
          _ = bigEndianValue (first :: second :: third :: rest) *
                2 ^ (2 * (2 * rest.length % 3)) := by
              simp only [bigEndianValue_cons, List.length_cons, Nat.pow_succ,
                group]
              ring
  | case2 first second group =>
      have firstSmall := first.toNat_lt
      have secondSmall := second.toNat_lt
      refine ⟨[group / 4096, group / 64 % 64, group % 64], by simp, ?_,
        by simp, ?_⟩
      · simp only [List.forall_mem_cons]
        exact ⟨by omega, by omega, by omega, List.forall_mem_nil _⟩
      · simp only [sextetValue, bigEndianValue_cons, bigEndianValue_nil,
          List.length_cons, List.length_nil, Nat.reduceAdd, Nat.reducePow,
          Nat.reduceMul, Nat.reduceMod]
        omega
  | case3 first group =>
      have firstSmall := first.toNat_lt
      refine ⟨[group / 64, group % 64], by simp, ?_, by simp, ?_⟩
      · simp only [List.forall_mem_cons]
        exact ⟨by omega, by omega, List.forall_mem_nil _⟩
      · simp only [sextetValue, bigEndianValue_cons, bigEndianValue_nil,
          List.length_cons, List.length_nil, Nat.reduceAdd, Nat.reducePow,
          Nat.reduceMul, Nat.reduceMod]
        omega
  | case4 => exact ⟨[], rfl, List.forall_mem_nil _, rfl, rfl⟩

/-- The characters that stand for six bits, in the order of their values. -/
def alphabet : List Char :=
  "ABCDEFGHIJKLMNOPQRSTUVWXYZabcdefghijklmnopqrstuvwxyz0123456789+/".toList

theorem alphabet_symbol {value : Nat} (small : value < 64) :
    alphabet[value]? = some (Char.ofNat (symbol value).toNat) := by
  have each : ∀ number : Fin 64,
      alphabet[number.val]? = some (Char.ofNat (symbol number).toNat) := by
    decide +kernel
  exact each ⟨value, small⟩

end Tunnel.Base64
