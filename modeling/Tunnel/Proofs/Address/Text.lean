import Tunnel.Address.Text
import Tunnel.Proofs.Address.Ipv6

/-!
# Addresses and endpoints read back

An address is read as it was written.  The text of an endpoint has no flow
label, so the endpoint is read without it; and no endpoint is read from a text
that has a scope.
-/

namespace Tunnel

namespace IpAddress

/-! ## Addresses -/

/-- The characters of addresses: colons, dots and digits. -/
def IsCharacter (character : Char) : Prop :=
  character = ':' ∨ character = '.' ∨ Hex.IsDigit character

instance (character : Char) : Decidable (IsCharacter character) :=
  inferInstanceAs (Decidable (_ ∨ _))

theorem IsCharacter.not_blank {character : Char}
    (isCharacter : IsCharacter character) :
    Text.isBlank character = false := by
  rcases isCharacter with rfl | rfl | digit
  · decide
  · decide
  · exact digit.not_blank

/-- What is read as an address has only characters of addresses. -/
theorem isCharacter_of_ofText? {text : List Char} {address : IpAddress}
    (read : ofText? text = some address) {character : Char}
    (member : character ∈ text) : IsCharacter character := by
  rcases Option.or_eq_some_iff.1 read with four | ⟨-, six⟩
  · obtain ⟨octets, found, -⟩ := Option.map_eq_some_iff.1 four
    obtain ⟨list, parsed, -⟩ := Option.bind_eq_some_iff.1 found
    exact Or.inr (Ipv4.mem_of_parse? parsed member)
  · obtain ⟨octets, found, -⟩ := Option.map_eq_some_iff.1 six
    obtain ⟨list, parsed, -⟩ := Option.bind_eq_some_iff.1 found
    exact Ipv6.mem_of_parse? parsed member

/-- An address is read as it was written. -/
theorem ofText?_toText (address : IpAddress) :
    ofText? address.toText = some address := by
  cases address with
  | ipv4 octets =>
      have parsed := Ipv4.parse?_render octets
      simp [ofText?, toText, parsed, Octets.ofList?_toList]
  | ipv6 octets =>
      have parsed := Ipv6.parse?_render octets
      have noFour : Ipv4.parse? (Ipv6.render octets.toList) = none := by
        rw [Option.eq_none_iff_forall_ne_some]
        intro list four
        have colonless : ':' ∉ Ipv6.render octets.toList := by
          intro colon
          exact absurd (Ipv4.mem_of_parse? four colon) (by decide)
        rw [Ipv6.parse?_of_not_mem colonless] at parsed
        cases parsed
      simp [ofText?, toText, parsed, noFour, Octets.ofList?_toList]

theorem isCharacter_of_mem_toText {address : IpAddress} {character : Char}
    (member : character ∈ address.toText) : IsCharacter character :=
  isCharacter_of_ofText? (ofText?_toText address) member

theorem solid_toText (address : IpAddress) : Text.Solid address.toText :=
  fun _ member => (isCharacter_of_mem_toText member).not_blank

end IpAddress

namespace Endpoint

/-! ## Endpoints -/

/-- The flow label of an endpoint; zero for IPv4. -/
def flow : Endpoint → UInt32
  | ipv4 _ _ => 0
  | ipv6 _ _ flow _ => flow

/-- The scope of an endpoint; zero for IPv4. -/
def scope : Endpoint → UInt32
  | ipv4 _ _ => 0
  | ipv6 _ _ _ scope => scope

/-- An endpoint with its flow label set to zero. -/
def withoutFlow : Endpoint → Endpoint
  | ipv4 address port => ipv4 address port
  | ipv6 address port _ scope => ipv6 address port 0 scope

theorem withoutFlow_eq_iff {endpoint : Endpoint} :
    endpoint.withoutFlow = endpoint ↔ endpoint.flow = 0 := by
  cases endpoint with
  | ipv4 address port => simp [withoutFlow, flow]
  | ipv6 address port flow scope =>
      simp [withoutFlow, Endpoint.flow, eq_comm]

theorem colon_not_mem_decimal (value : Nat) :
    ':' ∉ Numeral.decimal value := by
  intro colon
  have digit := Numeral.isDigit_of_mem_render (by decide) (by decide) colon
  exact absurd digit (by decide)

theorem hostAndPort?_of_not_mem {text : List Char} (absent : '[' ∉ text) :
    hostAndPort? text = Text.splitLast? ':' text := by
  unfold hostAndPort?
  split
  · exact absurd List.mem_cons_self absent
  · rfl

/-- The text of an IPv4 endpoint is cut into address and port. -/
theorem hostAndPort?_ipv4 (address : Octets 4) (port : UInt16) :
    hostAndPort? (ipv4 address port).toText =
      some ((IpAddress.ipv4 address).toText,
        Numeral.decimal port.toNat) := by
  have plain : '[' ∉ (ipv4 address port).toText := by
    intro bracket
    rcases List.mem_append.1 bracket with inAddress | inPort
    · exact absurd (Ipv4.mem_render inAddress) (by decide)
    · rcases List.mem_cons.1 inPort with colon | inNumber
      · exact absurd colon (by decide)
      · have digit :=
          Numeral.isDigit_of_mem_render (by decide) (by decide) inNumber
        exact absurd digit (by decide)
  rw [hostAndPort?_of_not_mem plain]
  exact Text.splitLast?_append (colon_not_mem_decimal port.toNat) _

/-- A host in brackets without further brackets is cut off. -/
theorem hostAndPort?_bracketed {host : List Char} (absent : ']' ∉ host)
    (port : List Char) :
    hostAndPort? ('[' :: (host ++ ']' :: ':' :: port)) =
      some (host, port) := by
  simp only [hostAndPort?, Text.splitOnce?_append absent]

theorem closing_not_mem_toText (address : IpAddress) :
    ']' ∉ address.toText := by
  intro bracket
  exact absurd (IpAddress.isCharacter_of_mem_toText bracket) (by decide)

/-- An endpoint without scope is read without its flow label. -/
theorem ofText?_toText {endpoint : Endpoint} (plain : endpoint.scope = 0) :
    ofText? endpoint.toText = some endpoint.withoutFlow := by
  cases endpoint with
  | ipv4 address port =>
      have read := IpAddress.ofText?_toText (.ipv4 address)
      simp [ofText?, hostAndPort?_ipv4, read, Numeral.word16?_decimal,
        ofAddress, withoutFlow]
  | ipv6 address port flow scope =>
      have zero : scope = 0 := plain
      subst zero
      have text : (ipv6 address port flow 0).toText =
          '[' :: ((IpAddress.ipv6 address).toText ++
            ']' :: ':' :: Numeral.decimal port.toNat) := by
        simp [toText, IpAddress.toText]
      have cut := hostAndPort?_bracketed
        (closing_not_mem_toText (.ipv6 address)) (Numeral.decimal port.toNat)
      have read := IpAddress.ofText?_toText (.ipv6 address)
      simp [ofText?, text, cut, read, Numeral.word16?_decimal, ofAddress,
        withoutFlow]

/-- No endpoint is read from the text of one with a scope. -/
theorem ofText?_toText_eq_none {endpoint : Endpoint}
    (zoned : endpoint.scope ≠ 0) : ofText? endpoint.toText = none := by
  cases endpoint with
  | ipv4 address port => exact absurd rfl zoned
  | ipv6 address port flow scope =>
      have nonzero : scope ≠ 0 := zoned
      let host := (IpAddress.ipv6 address).toText ++
        '%' :: Numeral.decimal scope.toNat
      have text : (ipv6 address port flow scope).toText =
          '[' :: (host ++ ']' :: ':' :: Numeral.decimal port.toNat) := by
        simp [toText, nonzero, IpAddress.toText, host]
      have closed : ']' ∉ host := by
        intro bracket
        rcases List.mem_append.1 bracket with inAddress | inZone
        · exact closing_not_mem_toText _ inAddress
        · rcases List.mem_cons.1 inZone with percent | inNumber
          · exact absurd percent (by decide)
          · have digit :=
              Numeral.isDigit_of_mem_render (by decide) (by decide) inNumber
            exact absurd digit (by decide)
      have unread : IpAddress.ofText? host = none := by
        rw [Option.eq_none_iff_forall_ne_some]
        intro found read
        have percent : '%' ∈ host := by simp [host]
        exact absurd (IpAddress.isCharacter_of_ofText? read percent)
          (by decide)
      simp [ofText?, text, hostAndPort?_bracketed closed, unread]

/-- What is read as an endpoint has neither flow label nor scope. -/
theorem flow_scope_of_ofText? {text : List Char} {endpoint : Endpoint}
    (read : ofText? text = some endpoint) :
    endpoint.flow = 0 ∧ endpoint.scope = 0 := by
  obtain ⟨⟨host, port⟩, -, read⟩ := Option.bind_eq_some_iff.1 read
  obtain ⟨address, -, read⟩ := Option.bind_eq_some_iff.1 read
  obtain ⟨number, -, same⟩ := Option.bind_eq_some_iff.1 read
  cases same
  cases address <;> exact ⟨rfl, rfl⟩

theorem solid_toText (endpoint : Endpoint) : Text.Solid endpoint.toText := by
  cases endpoint with
  | ipv4 address port =>
      exact (IpAddress.solid_toText (.ipv4 address)).append
        ((Numeral.solid_decimal port.toNat).cons (by decide))
  | ipv6 address port flow scope =>
      have zone : Text.Solid
          (if scope = 0 then [] else
            '%' :: Numeral.decimal scope.toNat) := by
        split
        · exact fun character member => absurd member List.not_mem_nil
        · exact (Numeral.solid_decimal scope.toNat).cons (by decide)
      have inside := (IpAddress.solid_toText (.ipv6 address)).cons
        (show Text.isBlank '[' = false by decide)
      have tail := ((Numeral.solid_decimal port.toNat).cons
        (show Text.isBlank ':' = false by decide)).cons
          (show Text.isBlank ']' = false by decide)
      exact (inside.append zone).append tail

end Endpoint

end Tunnel
