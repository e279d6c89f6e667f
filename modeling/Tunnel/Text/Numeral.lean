import Tunnel.Octets

/-!
# Numerals

Ports, prefix lengths, address octets and address groups are written in base
ten or sixteen.  `render` writes a number without leading zeros, `value?`
reads digits, and `natural?` is the reading of a whole number in a
configuration: at most one plus sign, then at least one decimal digit.
`value?_render` says that what was written reads back.
-/

namespace Tunnel.Numeral

/-- The digits of a number in a base, most significant first. -/
def render (base value : Nat) : List Char :=
  if _positional : 1 < base ∧ base ≤ value then
    render base (value / base) ++ [Hex.digit (value % base)]
  else [Hex.digit value]
termination_by value
decreasing_by
  exact Nat.div_lt_self (by omega) (by omega)

/-- The value of a digit that the base has. -/
def digitValue? (base : Nat) (character : Char) : Option Nat :=
  (Hex.digitValue? character).filter (· < base)

/-- The number that digits spell; there may be any count of them. -/
def value? (base : Nat) (digits : List Char) : Option Nat :=
  digits.foldlM
    (fun total character =>
      (digitValue? base character).map (base * total + ·))
    0

/-- A whole number in a configuration. -/
def natural? (text : List Char) : Option Nat :=
  let digits := match text with
    | '+' :: rest => rest
    | _ => text
  if digits = [] then none else value? 10 digits

/-- A whole number not above a limit. -/
def bounded? (limit : Nat) (text : List Char) : Option Nat :=
  (natural? text).filter (· ≤ limit)

/-- A port number or an interval in seconds. -/
def word16? (text : List Char) : Option UInt16 :=
  (bounded? 65535 text).map UInt16.ofNat

/-- The decimal digits of a number. -/
def decimal (value : Nat) : List Char :=
  render 10 value

/-! ## Laws -/

theorem digitValue?_digit {base value : Nat} (small : base ≤ 16)
    (below : value < base) :
    digitValue? base (Hex.digit value) = some value := by
  have read : ∀ number : Fin 16,
      Hex.digitValue? (Hex.digit number) = some number.val := by decide
  have found := read ⟨value, by omega⟩
  simp only at found
  simp [digitValue?, found, below]

theorem value?_append (base : Nat) (front : List Char) (last : Char) :
    value? base (front ++ [last]) =
      (value? base front).bind fun total =>
        (digitValue? base last).map (base * total + ·) := by
  unfold value?
  rw [List.foldlM_append]
  congr 1
  funext total
  simp [List.foldlM_cons, List.foldlM_nil]

/-- A rendered number reads back. -/
theorem value?_render {base : Nat} (atLeast : 2 ≤ base) (small : base ≤ 16)
    (value : Nat) : value? base (render base value) = some value := by
  induction value using Nat.strongRecOn with
  | ind value ih =>
      rw [render]
      split
      · next positional =>
          rw [value?_append,
            ih (value / base) (Nat.div_lt_self (by omega) (by omega))]
          have below : value % base < base := Nat.mod_lt _ (by omega)
          simp only [Option.bind_some, digitValue?_digit small below,
            Option.map_some]
          congr 1
          exact Nat.div_add_mod value base
      · next single =>
          have below : value < base := by omega
          have read := digitValue?_digit small below
          simp [value?, List.foldlM_cons, List.foldlM_nil, read]

theorem render_ne_nil (base value : Nat) : render base value ≠ [] := by
  rw [render]
  split <;> simp

end Tunnel.Numeral
