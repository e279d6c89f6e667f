import Tunnel.Address.Basic
import Tunnel.Text.Basic
import Tunnel.Text.Numeral

/-!
# IPv4 text

Four decimal octets between dots.  An octet has one to three digits, no
leading zero, and is at most 255.
-/

namespace Tunnel.Ipv4

/-- One octet of an address. -/
def octet? (text : List Char) : Option UInt8 := do
  guard (text ≠ [] ∧ text.length ≤ 3)
  guard (text.head? ≠ some '0' ∨ text.length = 1)
  let value ← Numeral.value? 10 text
  guard (value ≤ 255)
  return UInt8.ofNat value

/-- The octets of an address. -/
def parse? (text : List Char) : Option (List UInt8) :=
  match Text.split '.' text with
  | [first, second, third, fourth] =>
      [first, second, third, fourth].mapM octet?
  | _ => none

/-- The octets in decimal, between dots. -/
def render (octets : List UInt8) : List Char :=
  Text.join ['.'] (octets.map fun octet => Numeral.decimal octet.toNat)

end Tunnel.Ipv4
