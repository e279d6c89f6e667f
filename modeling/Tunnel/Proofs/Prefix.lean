import Tunnel.Prefix
import Tunnel.Proofs.Address.Text

/-!
# Prefixes read back

A prefix is read as it was written, and its text can stand in a list: it has
no comma and no blank.
-/

namespace Tunnel.Prefix

theorem solid_toText (network : Prefix) : Text.Solid network.toText :=
  (IpAddress.solid_toText network.address).append
    ((Numeral.solid_decimal network.length).cons (by decide))

theorem comma_not_mem_toText (network : Prefix) :
    ',' ∉ network.toText := by
  intro comma
  rcases List.mem_append.1 comma with inAddress | inLength
  · exact absurd (IpAddress.isCharacter_of_mem_toText inAddress) (by decide)
  · rcases List.mem_cons.1 inLength with slash | inNumber
    · exact absurd slash (by decide)
    · have digit :=
        Numeral.isDigit_of_mem_render (by decide) (by decide) inNumber
      exact absurd digit (by decide)

/-- The length of a prefix fits into one octet. -/
theorem length_lt_octet (network : Prefix) : network.length < 256 := by
  have bound : network.address.family.width ≤ 128 := by
    cases network.address.family <;> decide
  have fits : network.length ≤ network.address.family.width :=
    network.length_le
  omega

/-- A prefix can be made of every length up to the width of its address. -/
theorem exists_make_iff {address : IpAddress} {length : Nat} :
    (∃ network, make address length = .ok network) ↔
      length ≤ address.width := by
  constructor
  · rintro ⟨network, made⟩
    rcases make_eq_ok_iff.1 made with ⟨rfl, rfl⟩
    exact network.length_le
  · intro fits
    exact ⟨⟨address, length, fits⟩, dif_pos fits⟩

theorem toText_ne_nil (network : Prefix) : network.toText ≠ [] := by
  simp [toText]

/-- A prefix is read as it was written, after blanks or without them. -/
theorem ofText_append_toText {margin : List Char}
    (blank : ∀ character ∈ margin, Text.isBlank character = true)
    (network : Prefix) : ofText (margin ++ network.toText) = .ok network := by
  have trimmed : Text.trim (margin ++ network.toText) = network.toText := by
    rw [Text.trim, Text.trimStart_append blank]
    exact Text.trim_of_tight (solid_toText network).tight
  have slash : '/' ∉ network.address.toText := by
    intro slash
    exact absurd (IpAddress.isCharacter_of_mem_toText slash) (by decide)
  have within : network.length ≤ 255 :=
    Nat.le_of_lt_succ network.length_lt_octet
  have cut : Text.splitOnce? '/' network.toText =
      some (network.address.toText, Numeral.decimal network.length) :=
    Text.splitOnce?_append slash _
  simp only [ofText, trimmed, cut, IpAddress.ofText?_toText,
    Numeral.bounded?_decimal within, make_address_length]

end Tunnel.Prefix
