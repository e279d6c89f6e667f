import Mathlib.Tactic.SplitIfs
import Tunnel.Base64

/-!
# Base64 reads back

A text in base64 is a stretch of whole groups, which hold symbols only, and a
last group, which may be padded.  The groups that are written for octets are
read as these octets.
-/

namespace Tunnel.Base64

/-! ## Symbols -/

theorem symbol_ne_pad {value : Nat} (small : value < 64) :
    symbol value ≠ pad := by
  intro same
  have read := value?_symbol small
  rw [same, value?_pad] at read
  cases read

/-- Symbols are visible ASCII characters. -/
theorem symbol_visible (value : Nat) :
    32 < (symbol value).toNat ∧ (symbol value).toNat < 127 := by
  unfold symbol
  split_ifs with upper lower digit plus
  · rw [UInt8.toNat_ofNat']
    omega
  · rw [UInt8.toNat_ofNat']
    omega
  · rw [UInt8.toNat_ofNat']
    omega
  · decide
  · decide

theorem visible_of_mem_encode {octets : List UInt8} {octet : UInt8}
    (member : octet ∈ encode octets) :
    32 < octet.toNat ∧ octet.toNat < 127 := by
  have padVisible : 32 < pad.toNat ∧ pad.toNat < 127 := by decide
  fun_induction encode octets with
  | case1 first second third rest group ih =>
      simp only [List.mem_cons] at member
      rcases member with rfl | rfl | rfl | rfl | inRest
      · exact symbol_visible _
      · exact symbol_visible _
      · exact symbol_visible _
      · exact symbol_visible _
      · exact ih inRest
  | case2 first second group =>
      simp only [List.mem_cons, List.not_mem_nil, or_false] at member
      rcases member with rfl | rfl | rfl | rfl
      · exact symbol_visible _
      · exact symbol_visible _
      · exact symbol_visible _
      · exact padVisible
  | case3 first group =>
      simp only [List.mem_cons, List.not_mem_nil, or_false] at member
      rcases member with rfl | rfl | rfl | rfl
      · exact symbol_visible _
      · exact symbol_visible _
      · exact padVisible
      · exact padVisible
  | case4 => cases member

/-- A stretch of symbols is read as their values. -/
theorem frontValues_map {values : List Nat}
    (small : ∀ value ∈ values, value < 64) (offset : Nat) :
    frontValues offset (values.map symbol) = .ok values := by
  induction values generalizing offset with
  | nil => rfl
  | cons value rest ih =>
      have others := ih
        (fun other member => small other (List.mem_cons_of_mem _ member))
        (offset + 1)
      simp [frontValues, value?_symbol (small value List.mem_cons_self),
        others]

theorem tailValues_symbol {value : Nat} (small : value < 64)
    (start index : Nat) {tail : Tail} (unpadded : tail.padding = 0)
    (rest : List UInt8) :
    tailValues start index tail (symbol value :: rest) =
      tailValues start (index + 1)
        { tail with values := tail.values ++ [value] } rest := by
  rw [tailValues, if_neg (symbol_ne_pad small)]
  simp [unpadded, value?_symbol small]

theorem tailValues_pad (start : Nat) {index : Nat} (late : 2 ≤ index)
    (tail : Tail) (rest : List UInt8) :
    tailValues start index tail (pad :: rest) =
      tailValues start (index + 1)
        { tail with
          padding := tail.padding + 1
          firstPad :=
            if tail.padding = 0 then start + index else tail.firstPad }
        rest := by
  rw [tailValues, if_pos rfl, if_neg (by omega)]

/-! ## The last group -/

/-- A last group of four characters that is read as some values. -/
structure IsLastGroup (text : List UInt8) (values : List Nat) : Prop where
  length : text.length = 4
  atLeast : 2 ≤ values.length
  spare : spareBits values = 0
  read : ∀ start, ∃ tail, tailValues start 0 {} text = .ok tail ∧
    tail.values = values ∧ (tail.padding + values.length) % 4 = 0

theorem isLastGroup_four {first second third fourth : Nat}
    (firstSmall : first < 64) (secondSmall : second < 64)
    (thirdSmall : third < 64) (fourthSmall : fourth < 64) :
    IsLastGroup
      [symbol first, symbol second, symbol third, symbol fourth]
      [first, second, third, fourth] where
  length := rfl
  atLeast := by simp
  spare := rfl
  read := by
    intro start
    rw [tailValues_symbol firstSmall start 0 rfl,
      tailValues_symbol secondSmall start _ rfl,
      tailValues_symbol thirdSmall start _ rfl,
      tailValues_symbol fourthSmall start _ rfl, tailValues]
    exact ⟨_, rfl, rfl, by simp⟩

theorem isLastGroup_three {first second third : Nat}
    (firstSmall : first < 64) (secondSmall : second < 64)
    (thirdSmall : third < 64) (spare : third % 4 = 0) :
    IsLastGroup [symbol first, symbol second, symbol third, pad]
      [first, second, third] where
  length := rfl
  atLeast := by simp
  spare := spare
  read := by
    intro start
    rw [tailValues_symbol firstSmall start 0 rfl,
      tailValues_symbol secondSmall start _ rfl,
      tailValues_symbol thirdSmall start _ rfl,
      tailValues_pad start (by omega), tailValues]
    exact ⟨_, rfl, rfl, by simp⟩

theorem isLastGroup_two {first second : Nat}
    (firstSmall : first < 64) (secondSmall : second < 64)
    (spare : second % 16 = 0) :
    IsLastGroup [symbol first, symbol second, pad, pad]
      [first, second] where
  length := rfl
  atLeast := by simp
  spare := spare
  read := by
    intro start
    rw [tailValues_symbol firstSmall start 0 rfl,
      tailValues_symbol secondSmall start _ rfl,
      tailValues_pad start (by omega), tailValues_pad start (by omega),
      tailValues]
    exact ⟨_, rfl, rfl, by simp⟩

/-! ## Whole texts -/

/-- Whole groups and a last group are read as the octets of their values. -/
theorem decode_append {front : List Nat} {text : List UInt8}
    {values : List Nat} (small : ∀ value ∈ front, value < 64)
    (whole : front.length % 4 = 0) (last : IsLastGroup text values) :
    decode (front.map symbol ++ text) = .ok (octetsOf (front ++ values)) := by
  have size : (front.map symbol ++ text).length = front.length + 4 := by
    simp [last.length]
  have start : tailStart (front.map symbol ++ text).length = front.length := by
    rw [tailStart, size, if_pos (by omega)]
    omega
  obtain ⟨tail, read, same, groups⟩ := last.read front.length
  have taken : (front.map symbol ++ text).take front.length =
      front.map symbol := List.take_left' (by simp)
  have dropped : (front.map symbol ++ text).drop front.length = text :=
    List.drop_left' (by simp)
  have longer := last.atLeast
  have spare := last.spare
  subst same
  have aligned : ¬ (front.length + text.length) % 4 = 1 := by
    rw [last.length]
    omega
  have filled : ¬ tail.values.length < 2 := by omega
  unfold decode
  simp only [start, taken, dropped, frontValues_map small, read]
  cases (front.map symbol ++ text).getLast? with
  | none => simp [bind, Except.bind, pure, Except.pure, filled, groups, spare]
  | some final =>
      simp [bind, Except.bind, pure, Except.pure, aligned, filled, groups,
        spare]

theorem octetsOf_three (first second third : UInt8) (rest : List Nat) :
    let group := 65536 * first.toNat + 256 * second.toNat + third.toNat
    octetsOf (group / 262144 :: group / 4096 % 64 :: group / 64 % 64 ::
        group % 64 :: rest) =
      first :: second :: third :: octetsOf rest := by
  intro group
  have firstSmall := first.toNat_lt
  have secondSmall := second.toNat_lt
  have thirdSmall := third.toNat_lt
  have same : 262144 * (group / 262144) + 4096 * (group / 4096 % 64) +
      64 * (group / 64 % 64) + group % 64 = group := by
    omega
  have highest : UInt8.ofNat (group / 65536) = first := by
    rw [UInt8.ofNat_eq_iff_mod_eq_toNat]
    omega
  have middle : UInt8.ofNat (group / 256) = second := by
    rw [UInt8.ofNat_eq_iff_mod_eq_toNat]
    omega
  have lowest : UInt8.ofNat group = third := by
    rw [UInt8.ofNat_eq_iff_mod_eq_toNat]
    omega
  rw [octetsOf, same, highest, middle, lowest]

theorem octetsOf_two (first second : UInt8) :
    let group := 1024 * first.toNat + 4 * second.toNat
    octetsOf [group / 4096, group / 64 % 64, group % 64] =
      [first, second] := by
  intro group
  have firstSmall := first.toNat_lt
  have secondSmall := second.toNat_lt
  have same : 4096 * (group / 4096) + 64 * (group / 64 % 64) +
      group % 64 = group := by
    omega
  have high : UInt8.ofNat (group / 1024) = first := by
    rw [UInt8.ofNat_eq_iff_mod_eq_toNat]
    omega
  have low : UInt8.ofNat (group / 4) = second := by
    rw [UInt8.ofNat_eq_iff_mod_eq_toNat]
    omega
  rw [octetsOf, same, high, low]

theorem octetsOf_one (first : UInt8) :
    let group := 16 * first.toNat
    octetsOf [group / 64, group % 64] = [first] := by
  intro group
  have firstSmall := first.toNat_lt
  have same : 64 * (group / 64) + group % 64 = group := by omega
  have only : UInt8.ofNat (group / 16) = first := by
    rw [UInt8.ofNat_eq_iff_mod_eq_toNat]
    omega
  rw [octetsOf, same, only]

/-- The groups that are written for octets. -/
theorem exists_groups {octets : List UInt8} (some : octets ≠ []) :
    ∃ front text values,
      encode octets = front.map symbol ++ text ∧
        (∀ value ∈ front, value < 64) ∧ front.length % 4 = 0 ∧
        IsLastGroup text values ∧ octetsOf (front ++ values) = octets := by
  fun_induction encode octets with
  | case1 first second third rest group ih =>
      have firstSmall := first.toNat_lt
      have secondSmall := second.toNat_lt
      have thirdSmall := third.toNat_lt
      have small : group / 262144 < 64 := by omega
      by_cases last : rest = []
      · subst last
        refine ⟨[], _, [group / 262144, group / 4096 % 64,
          group / 64 % 64, group % 64], rfl, by simp, rfl, ?_, ?_⟩
        · exact isLastGroup_four small (by omega) (by omega) (by omega)
        · exact octetsOf_three first second third []
      · obtain ⟨front, text, values, written, frontSmall, whole, isLast,
          read⟩ := ih last
        refine ⟨group / 262144 :: group / 4096 % 64 :: group / 64 % 64 ::
          group % 64 :: front, text, values, ?_, ?_, ?_, isLast, ?_⟩
        · rw [written]
          rfl
        · intro value member
          simp only [List.mem_cons] at member
          rcases member with rfl | rfl | rfl | rfl | inFront
          · exact small
          · omega
          · omega
          · omega
          · exact frontSmall value inFront
        · simp only [List.length_cons]
          omega
        · have more := octetsOf_three first second third (front ++ values)
          rw [read] at more
          exact more
  | case2 first second group =>
      have firstSmall := first.toNat_lt
      have secondSmall := second.toNat_lt
      refine ⟨[], _, [group / 4096, group / 64 % 64, group % 64], rfl,
        by simp, rfl, ?_, octetsOf_two first second⟩
      exact isLastGroup_three (by omega) (by omega) (by omega) (by omega)
  | case3 first group =>
      have firstSmall := first.toNat_lt
      refine ⟨[], _, [group / 64, group % 64], rfl, by simp, rfl, ?_,
        octetsOf_one first⟩
      exact isLastGroup_two (by omega) (by omega) (by omega)
  | case4 => exact absurd rfl some

/-- Octets are read as they were written. -/
theorem decode_encode (octets : List UInt8) :
    decode (encode octets) = .ok octets := by
  by_cases empty : octets = []
  · rw [empty]
    rfl
  · obtain ⟨front, text, values, written, small, whole, last, read⟩ :=
      exists_groups empty
    rw [written, decode_append small whole last, read]

end Tunnel.Base64
