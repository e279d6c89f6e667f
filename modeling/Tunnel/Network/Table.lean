import Tunnel.Prefix
import Tunnel.Status

/-!
# Address and route tables

The addresses of interfaces and the routes through them are kept by the
operating system.  The library works with these tables only through the
operations below.
-/

namespace Tunnel

/-- An address that an interface has. -/
structure AddressEntry where
  interface : InterfaceId
  network : Prefix
deriving DecidableEq

instance : ToString AddressEntry where
  toString entry := s!"{entry.interface} {entry.network}"

/-- A route through an interface. -/
structure RouteEntry where
  interface : InterfaceId
  destination : Prefix
  metric : UInt32
deriving DecidableEq

instance : ToString RouteEntry where
  toString entry :=
    s!"{entry.interface} {entry.destination} {entry.metric.toNat}"

/-- The operations of the address and route tables. -/
structure RouteTable (m : Type → Type) where
  /-- Give an interface an address, with no end to its lifetime. -/
  addAddress : InterfaceId → Prefix → m (Except Error Unit)
  /-- The addresses of all interfaces. -/
  addresses : m (Except Error (List AddressEntry))
  deleteAddress : AddressEntry → m (Except Error Unit)
  /-- Add a route without a gateway, of metric zero. -/
  addRoute : InterfaceId → Prefix → m (Except Error Unit)
  /-- The routes through all interfaces. -/
  routes : m (Except Error (List RouteEntry))
  deleteRoute : RouteEntry → m (Except Error Unit)

/-- Tables whose operations are run in another monad. -/
def RouteTable.lift {m n : Type → Type} (run : {α : Type} → m α → n α)
    (table : RouteTable m) : RouteTable n where
  addAddress interface network := run (table.addAddress interface network)
  addresses := run table.addresses
  deleteAddress entry := run (table.deleteAddress entry)
  addRoute interface destination := run (table.addRoute interface destination)
  routes := run table.routes
  deleteRoute entry := run (table.deleteRoute entry)

end Tunnel
