import Mathlib.Data.Option.Basic
import Tunnel.Address.Ipv4
import Tunnel.Proofs.Octets
import Tunnel.Proofs.Outcome
import Tunnel.Proofs.Text.Cut
import Tunnel.Proofs.Text.Numeral

/-!
# IPv4 text reads back

Four octets between dots are read as they were written, and what is read as an
IPv4 address has digits and dots only.
-/

namespace Tunnel.Ipv4

/-! ## One octet -/

theorem octet?_eq_some_iff {text : List Char} {octet : UInt8} :
    octet? text = some octet ↔
      (text ≠ [] ∧ text.length ≤ 3) ∧
        (text.head? ≠ some '0' ∨ text.length = 1) ∧
        ∃ value, Numeral.value? 10 text = some value ∧ value ≤ 255 ∧
          UInt8.ofNat value = octet := by
  simp [octet?, Option.bind_eq_some_iff, Option.guard_eq_some']

theorem octet?_decimal (octet : UInt8) :
    octet? (Numeral.decimal octet.toNat) = some octet := by
  have small : octet.toNat ≤ 255 := Nat.le_of_lt_succ octet.toNat_lt
  have short : (Numeral.decimal octet.toNat).length ≤ 3 :=
    Numeral.length_render_le (by decide)
      (Nat.lt_of_lt_of_le octet.toNat_lt (by decide))
  have front : (Numeral.decimal octet.toNat).head? ≠ some '0' ∨
      (Numeral.decimal octet.toNat).length = 1 := by
    by_cases zero : (Numeral.decimal octet.toNat).head? = some '0'
    · have value : octet.toNat = 0 :=
        Numeral.head?_render (by decide) (by decide) zero
      right
      rw [value, Numeral.decimal, Numeral.render]
      rfl
    · exact Or.inl zero
  exact octet?_eq_some_iff.2
    ⟨⟨Numeral.render_ne_nil 10 _, short⟩, front, octet.toNat,
      Numeral.value?_render (by decide) (by decide) _, small,
      UInt8.ofNat_toNat⟩

/-! ## Characters -/

theorem mem_render {octets : List UInt8} {character : Char}
    (member : character ∈ render octets) :
    character = '.' ∨ Hex.IsDigit character := by
  rcases Text.mem_join member with dot | ⟨item, itemMember, inItem⟩
  · exact Or.inl (by simpa using dot)
  · obtain ⟨octet, -, rfl⟩ := List.mem_map.1 itemMember
    exact Or.inr
      (Numeral.isDigit_of_mem_render (by decide) (by decide) inItem)

/-- What is read as an IPv4 address has dots and digits only. -/
theorem mem_of_parse? {text : List Char} {octets : List UInt8}
    (read : parse? text = some octets) {character : Char}
    (member : character ∈ text) :
    character = '.' ∨ Hex.IsDigit character := by
  rcases Text.mem_of_split member with dot | ⟨item, itemMember, inItem⟩
  · exact Or.inl dot
  · right
    unfold parse? at read
    split at read
    · next first second third fourth cut =>
        rw [cut] at itemMember
        obtain ⟨octet, itemRead⟩ := exists_of_mapM_eq_some read itemMember
        obtain ⟨-, -, value, valueRead, -⟩ := octet?_eq_some_iff.1 itemRead
        exact Numeral.isDigit_of_value? valueRead character inItem
    · cases read

/-! ## Whole addresses -/

theorem length_of_parse? {text : List Char} {octets : List UInt8}
    (read : parse? text = some octets) : octets.length = 4 := by
  unfold parse? at read
  split at read
  · exact (mapM_eq_some_iff.1 read).length_eq.symm
  · cases read

/-- An address is read as it was written. -/
theorem parse?_render (octets : Octets 4) :
    parse? (render octets.toList) = some octets.toList := by
  have undotted : ∀ item ∈ octets.toList.map fun octet =>
      Numeral.decimal octet.toNat, '.' ∉ item := by
    intro item itemMember dot
    obtain ⟨octet, -, rfl⟩ := List.mem_map.1 itemMember
    have digit := Numeral.isDigit_of_mem_render (by decide) (by decide) dot
    exact absurd digit (by decide)
  obtain ⟨list, size⟩ := octets
  match list, size with
  | [first, second, third, fourth], size =>
      have cut := Text.split_join (by simp) undotted
      simp only [List.map_cons, List.map_nil] at cut
      simp [parse?, render, cut, octet?_decimal]

end Tunnel.Ipv4
