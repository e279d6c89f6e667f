import Tunnel.Error.Basic
import Tunnel.Key.Basic
import Tunnel.Prefix

/-!
# Keys and prefixes by themselves

Reading a key or a prefix that does not stand in a document: a fault becomes
an error of its kind, without a line.
-/

namespace Tunnel

/-- The key that a text spells. -/
def Key.parse (text : String) : Except Error Key :=
  (Key.ofText text.toList).mapError fun fault => .key fault.message

/-- The prefix that a text spells. -/
def Prefix.parse (text : String) : Except Error Prefix :=
  (Prefix.ofText text.toList).mapError fun fault =>
    .invalidPrefix fault.message

/-- The prefix of an address and a length. -/
def Prefix.build (address : IpAddress) (length : Nat) : Except Error Prefix :=
  (Prefix.make address length).mapError fun fault =>
    .invalidPrefix fault.message

end Tunnel
