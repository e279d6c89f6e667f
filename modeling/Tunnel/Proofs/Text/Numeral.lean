import Mathlib.Algebra.Ring.Nat
import Mathlib.Data.List.Induction
import Tunnel.Proofs.Text.Cut
import Tunnel.Text.Numeral

/-!
# Written numbers

The digits of a written number: which characters they are, how many there are
and which comes first.  Hence a number in a configuration reads back.
-/

namespace Tunnel

namespace Hex

/-- A hexadecimal digit of either case. -/
def IsDigit (character : Char) : Prop :=
  (digitValue? character).isSome

instance (character : Char) : Decidable (IsDigit character) :=
  inferInstanceAs (Decidable (_ = true))

theorem isDigit_digit {value : Nat} (small : value < 16) :
    IsDigit (digit value) := by
  have all : ∀ number : Fin 16, IsDigit (digit number) := by decide
  exact all ⟨value, small⟩

theorem digit_eq_zero {value : Nat} (small : value < 16)
    (zero : digit value = '0') : value = 0 := by
  have all : ∀ number : Fin 16, digit number = '0' → number.val = 0 := by
    decide
  exact all ⟨value, small⟩ zero

/-- The codes of digits. -/
theorem IsDigit.code {character : Char} (isDigit : IsDigit character) :
    (48 ≤ character.toNat ∧ character.toNat ≤ 57) ∨
      (97 ≤ character.toNat ∧ character.toNat ≤ 102) ∨
      (65 ≤ character.toNat ∧ character.toNat ≤ 70) := by
  unfold IsDigit digitValue? at isDigit
  grind

theorem IsDigit.not_blank {character : Char}
    (isDigit : IsDigit character) : Text.isBlank character = false := by
  have code := isDigit.code
  exact Text.not_blank_of_code (by omega) (by omega)

end Hex

namespace Numeral

/-! ## Digits of a written number -/

theorem mem_render {base value : Nat} (atLeast : 2 ≤ base)
    {character : Char} (member : character ∈ render base value) :
    ∃ number, number < base ∧ character = Hex.digit number := by
  induction value using Nat.strongRecOn with
  | ind value ih =>
      rw [render] at member
      split at member
      · next positional =>
          rcases List.mem_append.1 member with front | last
          · exact ih (value / base)
              (Nat.div_lt_self (by omega) (by omega)) front
          · refine ⟨value % base, Nat.mod_lt _ (by omega), ?_⟩
            simpa using last
      · next single =>
          refine ⟨value, by omega, ?_⟩
          simpa using member

theorem isDigit_of_mem_render {base value : Nat} (atLeast : 2 ≤ base)
    (small : base ≤ 16) {character : Char}
    (member : character ∈ render base value) : Hex.IsDigit character := by
  obtain ⟨number, below, rfl⟩ := mem_render atLeast member
  exact Hex.isDigit_digit (by omega)

theorem solid_decimal (value : Nat) : Text.Solid (decimal value) := by
  intro character member
  exact (isDigit_of_mem_render (by decide) (by decide) member).not_blank

theorem length_render_le {base count value : Nat} (atLeast : 2 ≤ base)
    (fits : value < base ^ (count + 1)) :
    (render base value).length ≤ count + 1 := by
  induction count generalizing value with
  | zero =>
      rw [Nat.zero_add, Nat.pow_one] at fits
      rw [render, dif_neg (by omega)]
      simp
  | succ count ih =>
      rw [render]
      split
      · have smaller : value / base < base ^ (count + 1) := by
          rw [Nat.div_lt_iff_lt_mul (by omega)]
          simpa [Nat.pow_succ] using fits
        have shorter := ih smaller
        simpa using shorter
      · simp

/-- Only zero is written with a zero in front. -/
theorem head?_render {base value : Nat} (atLeast : 2 ≤ base)
    (small : base ≤ 16) (front : (render base value).head? = some '0') :
    value = 0 := by
  induction value using Nat.strongRecOn with
  | ind value ih =>
      rw [render] at front
      split at front
      · next positional =>
          have shorter := Nat.div_lt_self (n := value) (k := base)
            (by omega) (by omega)
          have begins : (render base (value / base)).head? = some '0' := by
            cases shape : render base (value / base) with
            | nil => exact absurd shape (render_ne_nil _ _)
            | cons digit rest => simpa [shape] using front
          have zero := ih (value / base) shorter begins
          have positive := Nat.div_pos positional.2 (by omega)
          omega
      · next single =>
          have zero : Hex.digit value = '0' := by simpa using front
          exact Hex.digit_eq_zero (by omega) zero

/-- What spells a number has no other characters than digits. -/
theorem isDigit_of_value? {base total : Nat} {digits : List Char}
    (read : value? base digits = some total) :
    ∀ character ∈ digits, Hex.IsDigit character := by
  induction digits using List.reverseRecOn generalizing total with
  | nil => simp
  | append_singleton front last ih =>
      rw [value?_append] at read
      obtain ⟨high, readFront, read⟩ := Option.bind_eq_some_iff.1 read
      obtain ⟨low, readLast, -⟩ := Option.map_eq_some_iff.1 read
      intro character member
      rcases List.mem_append.1 member with inFront | isLast
      · exact ih readFront character inFront
      · rw [List.mem_singleton.1 isLast, Hex.IsDigit]
        rw [digitValue?, Option.filter_eq_some_iff] at readLast
        rw [readLast.1]
        rfl

/-! ## Numbers in a configuration -/

theorem natural?_decimal (value : Nat) :
    natural? (decimal value) = some value := by
  have unsigned : ∀ rest, decimal value ≠ '+' :: rest := by
    intro rest signed
    have member : '+' ∈ decimal value := by
      rw [signed]
      exact List.mem_cons_self
    have digit := isDigit_of_mem_render (by decide) (by decide) member
    exact absurd digit (by decide)
  have some : decimal value ≠ [] := render_ne_nil 10 value
  unfold natural?
  -- `unsigned` rules out the form with a sign.
  simp only [if_neg some]
  exact value?_render (by decide) (by decide) value

theorem bounded?_decimal {limit value : Nat} (within : value ≤ limit) :
    bounded? limit (decimal value) = some value := by
  simp [bounded?, natural?_decimal, within]

theorem word16?_decimal (value : UInt16) :
    word16? (decimal value.toNat) = some value := by
  have within : value.toNat ≤ 65535 := Nat.le_of_lt_succ value.toNat_lt
  rw [word16?, bounded?_decimal within, Option.map_some,
    UInt16.ofNat_toNat]

end Numeral

end Tunnel
