import Tunnel.Key.Basic
import Tunnel.Prefix

/-!
# Configurations

A tunnel configuration is the local interface and an ordered list of peers.
Every field that a document may leave out is optional, so that an absent
port differs from port zero.
-/

namespace Tunnel

/-- The local end of a tunnel. -/
structure Config.Interface where
  privateKey : Option Key := none
  publicKey : Option Key := none
  listenPort : Option UInt16 := none
  /-- Addresses of the adapter, in document order. -/
  addresses : List Prefix := []
deriving DecidableEq

/-- A remote end of a tunnel. -/
structure Config.Peer where
  publicKey : Option Key := none
  presharedKey : Option Key := none
  /-- Seconds between keepalive packets. -/
  persistentKeepalive : Option UInt16 := none
  endpoint : Option Endpoint := none
  /-- Networks routed to the peer, in document order. -/
  allowedIps : List Prefix := []
deriving DecidableEq

/-- A complete tunnel configuration. -/
structure Config where
  interface : Config.Interface := {}
  /-- Peers in document order; equal peers are kept. -/
  peers : List Config.Peer := []
deriving DecidableEq

namespace Config

instance : Inhabited Config := ⟨{}⟩

/-- The networks of all peers, in order. -/
def routes (config : Config) : List Prefix :=
  config.peers.flatMap (·.allowedIps)

theorem mem_routes {config : Config} {network : Prefix} :
    network ∈ config.routes ↔
      ∃ peer ∈ config.peers, network ∈ peer.allowedIps :=
  List.mem_flatMap

end Config

end Tunnel
