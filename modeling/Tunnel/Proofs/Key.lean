import Tunnel.Key.Basic
import Tunnel.Proofs.Base64.Spelling
import Tunnel.Proofs.Text.Cut

/-!
# Keys have one spelling

The text of a key has visible ASCII characters only, and the key is read as it
was written.  It is read from no other text, blanks around it apart: base64 has
one spelling for octets, and characters are determined by their UTF-8 octets.
-/

namespace Tunnel.Key

/-- ASCII characters are written as one octet each. -/
theorem textOctets_map {octets : List UInt8}
    (small : ∀ octet ∈ octets, octet.toNat < 128) :
    textOctets (octets.map fun octet => Char.ofNat octet.toNat) =
      octets := by
  have single : ∀ number : Fin 128,
      String.utf8EncodeChar (Char.ofNat number) = [UInt8.ofNat number] := by
    decide
  induction octets with
  | nil => rfl
  | cons octet rest ih =>
      have others := ih fun other member =>
        small other (List.mem_cons_of_mem _ member)
      have first := single ⟨octet.toNat, small octet List.mem_cons_self⟩
      rw [textOctets] at others ⊢
      rw [List.map_cons, List.flatMap_cons, others, first,
        UInt8.ofNat_toNat, List.singleton_append]

theorem solid_toText (key : Key) : Text.Solid key.toText := by
  intro character member
  obtain ⟨octet, inside, rfl⟩ := List.mem_map.1 member
  obtain ⟨above, below⟩ := Base64.visible_of_mem_encode inside
  have code : ∀ number : Fin 128, (Char.ofNat number).toNat = number.val := by
    decide
  have same := code ⟨octet.toNat, by omega⟩
  simp only at same
  apply Text.not_blank_of_code
  · omega
  · omega

theorem textOctets_toText (key : Key) :
    textOctets key.toText = Base64.encode key.octets.toList := by
  apply textOctets_map
  intro octet member
  have visible := Base64.visible_of_mem_encode member
  omega

/-! ## Reading -/

/-- Characters are determined by their octets. -/
theorem textOctets_injective : Function.Injective textOctets := by
  intro left right same
  have encoded : (String.ofList left).toByteArray =
      (String.ofList right).toByteArray :=
    congrArg List.toByteArray same
  exact String.ofList_injective (String.toByteArray_inj.1 encoded)

/-- A text that spells the octets of a key is read as the key. -/
theorem ofText_of_octets {text : List Char} {key : Key}
    (read : Base64.decode (textOctets (Text.trim text)) =
      .ok key.octets.toList) : ofText text = .ok key := by
  simp only [ofText, read, Octets.ofList?_toList]

/-- A text that spells more or fewer octets than a key has is refused. -/
theorem ofText_of_wrongLength {text : List Char} {octets : List UInt8}
    (read : Base64.decode (textOctets (Text.trim text)) = .ok octets)
    (other : octets.length ≠ 32) :
    ofText text = .error (.wrongLength octets.length) := by
  simp only [ofText, read, Octets.ofList?, dif_neg other]

/-- A key is read from its own text only, with or without blanks around it. -/
theorem ofText_eq_ok_iff {text : List Char} {key : Key} :
    ofText text = .ok key ↔ Text.trim text = key.toText := by
  constructor
  · intro read
    cases decoded : Base64.decode (textOctets (Text.trim text)) with
    | error fault =>
        unfold ofText at read
        rw [decoded] at read
        cases read
    | ok octets =>
        by_cases exact : octets.length = 32
        · have spelled : Base64.decode (textOctets (Text.trim text)) =
              .ok (Key.mk ⟨octets, exact⟩).octets.toList := decoded
          cases (ofText_of_octets spelled).symm.trans read
          apply textOctets_injective
          rw [textOctets_toText]
          exact Base64.decode_eq_ok_iff.1 decoded
        · cases (ofText_of_wrongLength decoded exact).symm.trans read
  · intro same
    apply ofText_of_octets
    rw [same, textOctets_toText, Base64.decode_encode]

/-- A key is read as it was written. -/
theorem ofText_toText (key : Key) : ofText key.toText = .ok key :=
  ofText_eq_ok_iff.2 (Text.trim_of_tight (solid_toText key).tight)

/-! ## The one spelling -/

/--
A text of forty-four characters spells a key: it ends with its only `=`, and
the characters before stand for the bits of the key, six at a time, with two
bits behind them that are zero.
-/
structure IsSpelling (key : Key) (text : List Char) : Prop where
  length : text.length = 44
  padded : ∃ front, text = front ++ ['='] ∧ '=' ∉ front
  bits : ∃ values,
    text.dropLast.map some =
        values.map (fun value => Base64.alphabet[value]?) ∧
      Base64.sextetValue values = 4 * bigEndianValue key.octets.toList

/-- What is written for a key is its spelling. -/
theorem isSpelling_toText (key : Key) : IsSpelling key key.toText := by
  obtain ⟨values, written, spells⟩ :=
    Base64.exists_spells key.octets.toList
  rw [key.octets.length_toList] at written spells
  have room : 64 ^ values.length = 64 ^ 43 := by
    rw [spells.room, key.octets.length_toList]
    decide
  have length : values.length = 43 :=
    Nat.pow_right_injective (by decide) room
  let front := values.map fun value =>
    Char.ofNat (Base64.symbol value).toNat
  have whole : key.toText = front ++ ['='] := by
    rw [toText, written, List.map_append, List.map_map]
    rfl
  have symbols : front.map some =
      values.map fun value => Base64.alphabet[value]? := by
    rw [List.map_map]
    apply List.map_congr_left
    intro value member
    exact (Base64.alphabet_symbol (spells.small value member)).symm
  refine ⟨?_, ⟨front, whole, ?_⟩, values, ?_, ?_⟩
  · rw [whole, List.length_append, List.length_map, length]
    rfl
  · intro member
    have inside : some '=' ∈ front.map some := List.mem_map_of_mem member
    rw [symbols] at inside
    obtain ⟨value, -, found⟩ := List.mem_map.1 inside
    have marked := List.mem_of_getElem? found
    revert marked
    decide +kernel
  · rw [whole, List.dropLast_concat, symbols]
  · rw [spells.same]
    exact Nat.mul_comm _ _

/--
There is one spelling for a key.  It is read from the text that is written for
it and from no other, blanks around it apart, so texts that differ when they
are trimmed are never the same key.  A text that spells more or fewer octets
than a key has is refused.
-/
theorem one_spelling :
    (∀ text key, ofText text = .ok key ↔ Text.trim text = key.toText) ∧
    (∀ key, IsSpelling key key.toText ∧ ofText key.toText = .ok key) ∧
    (∀ left right key, ofText left = .ok key → ofText right = .ok key →
      Text.trim left = Text.trim right) ∧
    ∀ text octets,
      Base64.decode (textOctets (Text.trim text)) = .ok octets →
        octets.length ≠ 32 →
          ofText text = .error (.wrongLength octets.length) := by
  refine ⟨fun text key => ofText_eq_ok_iff, fun key => ?_, ?_, ?_⟩
  · exact ⟨isSpelling_toText key, ofText_toText key⟩
  · intro left right key readLeft readRight
    rw [ofText_eq_ok_iff.1 readLeft, ofText_eq_ok_iff.1 readRight]
  · intro text octets read other
    exact ofText_of_wrongLength read other

/-- Blanks around a key do not count, and sixteen octets are no key. -/
theorem one_spelling_zero :
    let zeros : Key := ⟨Octets.zero 32⟩
    let wide := "\n AAAAAAAAAAAAAAAAAAAAAAAAAAAAAAAAAAAAAAAAAAA=\u3000".toList
    let short := "AAAAAAAAAAAAAAAAAAAAAA==".toList
    ofText wide = .ok zeros ∧ ofText zeros.toText = .ok zeros ∧
      Text.trim wide = Text.trim zeros.toText ∧
      Base64.decode (textOctets (Text.trim short)) =
        .ok (List.replicate 16 0) ∧
      ofText short = .error (.wrongLength 16) := by
  intro zeros wide short
  obtain ⟨reads, writes, same, refuses⟩ := one_spelling
  have readWide : ofText wide = .ok zeros :=
    (reads wide zeros).2 (by decide +kernel)
  have readZeros := (writes zeros).2
  have readShort : Base64.decode (textOctets (Text.trim short)) =
      .ok (List.replicate 16 0) := by
    decide +kernel
  exact ⟨readWide, readZeros, same wide zeros.toText zeros readWide readZeros,
    readShort, refuses short _ readShort (by decide)⟩

end Tunnel.Key
