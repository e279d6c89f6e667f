import Tunnel.Address.Text

/-!
# Prefixes

An address with a count of leading bits, such as `10.0.0.0/8`: the address of
an interface, or the network routed to a peer.  The count never exceeds the
width of the address.
-/

namespace Tunnel

/-- An address with a prefix length. -/
structure Prefix where
  address : IpAddress
  length : Nat
  length_le : length ≤ address.width
deriving DecidableEq

namespace Prefix

/-- Why a text or a pair is not a prefix. -/
inductive Fault
  | missingLength (text : List Char)
  | invalidAddress (text : List Char)
  | invalidLength (text : List Char)
  | tooLong (length : Nat) (address : IpAddress)
deriving DecidableEq

/-- The wording of a fault. -/
def Fault.message : Fault → String
  | .missingLength text =>
      s!"missing prefix length in '{String.ofList text}'"
  | .invalidAddress text => s!"invalid address '{String.ofList text}'"
  | .invalidLength text =>
      s!"invalid prefix length '{String.ofList text}'"
  | .tooLong length address =>
      s!"prefix length {length} exceeds {address.width} for {address}"

/-- A prefix of a given length, if the address is that wide. -/
def make (address : IpAddress) (length : Nat) : Except Fault Prefix :=
  if fits : length ≤ address.width then .ok ⟨address, length, fits⟩
  else .error (.tooLong length address)

/-- The prefix that holds one address only. -/
def host (address : IpAddress) : Prefix :=
  ⟨address, address.width, Nat.le_refl _⟩

/-- The prefix of length zero: every address of a family. -/
def everything (family : Family) : Prefix :=
  ⟨IpAddress.unspecified family, 0, Nat.zero_le _⟩

/-- The prefix that a text spells; blanks around it do not count. -/
def ofText (text : List Char) : Except Fault Prefix :=
  let text := Text.trim text
  match Text.splitOnce? '/' text with
  | none => .error (.missingLength text)
  | some (address, length) =>
      match IpAddress.ofText? address with
      | none => .error (.invalidAddress address)
      | some address =>
          match Numeral.bounded? 255 length with
          | none => .error (.invalidLength length)
          | some length => make address length

/-- The text of a prefix. -/
def toText (network : Prefix) : List Char :=
  network.address.toText ++ '/' :: Numeral.decimal network.length

instance : ToString Prefix where
  toString network := String.ofList network.toText

instance : Inhabited Prefix := ⟨everything .ipv4⟩

theorem make_address_length (network : Prefix) :
    make network.address network.length = .ok network := by
  simp [make, network.length_le]

theorem make_eq_ok_iff {address : IpAddress} {length : Nat}
    {network : Prefix} :
    make address length = .ok network ↔
      network.address = address ∧ network.length = length := by
  constructor
  · intro made
    unfold make at made
    split at made
    · cases made
      exact ⟨rfl, rfl⟩
    · cases made
  · rintro ⟨rfl, rfl⟩
    exact make_address_length network

end Prefix

end Tunnel
