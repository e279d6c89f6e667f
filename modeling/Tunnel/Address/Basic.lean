import Tunnel.Octets

/-!
# Addresses

An address is four or sixteen octets, and an endpoint adds the port at which
a peer is reached.  An IPv6 endpoint may carry a flow label and a scope.
-/

namespace Tunnel

/-- The two families of addresses. -/
inductive Family
  | ipv4
  | ipv6
deriving DecidableEq

/-- The count of octets in an address of a family. -/
def Family.size : Family → Nat
  | .ipv4 => 4
  | .ipv6 => 16

/-- The count of bits in an address of a family. -/
def Family.width : Family → Nat
  | .ipv4 => 32
  | .ipv6 => 128

/-- An address of either family. -/
inductive IpAddress
  | ipv4 (octets : Octets 4)
  | ipv6 (octets : Octets 16)
deriving DecidableEq

namespace IpAddress

def family : IpAddress → Family
  | ipv4 _ => .ipv4
  | ipv6 _ => .ipv6

/-- The octets of an address, most significant first. -/
def toList : IpAddress → List UInt8
  | ipv4 octets => octets.toList
  | ipv6 octets => octets.toList

/-- The count of bits in an address. -/
def width (address : IpAddress) : Nat :=
  address.family.width

/-- The address whose bits are all zero. -/
def unspecified : Family → IpAddress
  | .ipv4 => ipv4 (Octets.zero 4)
  | .ipv6 => ipv6 (Octets.zero 16)

/-- An address from the first octets of a list, when it has enough. -/
def take? (family : Family) (octets : List UInt8) : Option IpAddress :=
  match family with
  | .ipv4 => (Octets.take? 4 octets).map ipv4
  | .ipv6 => (Octets.take? 16 octets).map ipv6

@[simp]
theorem length_toList (address : IpAddress) :
    address.toList.length = address.family.size := by
  cases address <;> simp [toList, family, Family.size, Octets.length_toList]

/-- An address is read back from its octets, whatever follows them. -/
theorem take?_toList (address : IpAddress) (rest : List UInt8) :
    take? address.family (address.toList ++ rest) = some address := by
  cases address <;> simp [take?, toList, family, Octets.take?_append]

@[simp]
theorem family_unspecified (family : Family) :
    (unspecified family).family = family := by
  cases family <;> rfl

end IpAddress

/-- Where a peer is reached. -/
inductive Endpoint
  | ipv4 (address : Octets 4) (port : UInt16)
  | ipv6 (address : Octets 16) (port : UInt16) (flow scope : UInt32)
deriving DecidableEq

namespace Endpoint

def address : Endpoint → IpAddress
  | ipv4 address _ => .ipv4 address
  | ipv6 address _ _ _ => .ipv6 address

def port : Endpoint → UInt16
  | ipv4 _ port => port
  | ipv6 _ port _ _ => port

/-- An endpoint with neither flow label nor scope. -/
def ofAddress (address : IpAddress) (port : UInt16) : Endpoint :=
  match address with
  | .ipv4 octets => ipv4 octets port
  | .ipv6 octets => ipv6 octets port 0 0

end Endpoint

end Tunnel
