import Tunnel.Image.Compile

/-!
# Reading an image

An image is read record by record, as many records as its counts say.  A
field whose flag is clear is absent whatever its octets are.  Octets after
the last counted record have no meaning.
-/

namespace Tunnel.Image

/-- A configuration that was read, with what the driver counts for each peer. -/
structure Decoded where
  config : Config := {}
  /-- One entry for each peer, in the order of the peers. -/
  stats : List PeerStats := []
deriving DecidableEq

/-- A field whose flag decides whether it is there. -/
def fieldIf {α : Type} (flags flag : UInt32) (value : α) : Option α :=
  if isSet flags flag then some value else none

/-- The local interface that a record describes. -/
def readInterface (record : InterfaceRecord) : Config.Interface where
  privateKey :=
    fieldIf record.flags InterfaceFlag.hasPrivateKey record.privateKey
  publicKey :=
    fieldIf record.flags InterfaceFlag.hasPublicKey record.publicKey
  listenPort :=
    fieldIf record.flags InterfaceFlag.hasListenPort record.listenPort

/-- The next record of a given size, and the octets after it. -/
def takeRecord (size : Nat) (rest : List UInt8) :
    Except Error (Octets size × List UInt8) :=
  match Octets.take? size rest with
  | none => .error (.truncated size rest.length)
  | some record => .ok (record, rest.drop size)

/-- The allowed network in a record. -/
def networkOf (record : Octets 24) : Except Error Prefix :=
  match readNetwork record with
  | .error error => .error error
  | .ok (address, length) =>
      (Prefix.make address length.toNat).mapError fun fault =>
        .invalidPrefix fault.message

/-- Some count of allowed networks, and the octets after them. -/
def readNetworks : (count : Nat) → List UInt8 →
    Except Error (List Prefix × List UInt8)
  | 0, rest => .ok ([], rest)
  | count + 1, rest => do
      let (record, rest) ← takeRecord 24 rest
      let network ← networkOf record
      let (networks, rest) ← readNetworks count rest
      return (network :: networks, rest)

/-- The endpoint of a peer, if its flag is set. -/
def readPeerEndpoint (record : PeerRecord) :
    Except Error (Option Endpoint) :=
  if isSet record.flags PeerFlag.hasEndpoint then
    (readEndpoint record.endpoint).map some
  else .ok none

/-- The peer that a record and its allowed networks describe. -/
def readPeer (record : PeerRecord) (endpoint : Option Endpoint)
    (allowedIps : List Prefix) : Config.Peer where
  publicKey := fieldIf record.flags PeerFlag.hasPublicKey record.publicKey
  presharedKey :=
    fieldIf record.flags PeerFlag.hasPresharedKey record.presharedKey
  persistentKeepalive :=
    fieldIf record.flags PeerFlag.hasPersistentKeepalive
      record.persistentKeepalive
  endpoint := endpoint
  allowedIps := allowedIps

/-- Some count of peers with their counters, and the octets after them. -/
def readPeers : (count : Nat) → List UInt8 →
    Except Error (List (Config.Peer × PeerStats) × List UInt8)
  | 0, rest => .ok ([], rest)
  | count + 1, rest => do
      let (octets, rest) ← takeRecord 136 rest
      let record := PeerRecord.ofOctets octets
      let endpoint ← readPeerEndpoint record
      let (allowedIps, rest) ←
        readNetworks record.allowedIpCount.toNat rest
      let (peers, rest) ← readPeers count rest
      return ((readPeer record endpoint allowedIps, record.stats) :: peers,
        rest)

/-- The configuration in an image. -/
def decode (image : List UInt8) : Except Error Decoded := do
  let (octets, rest) ← takeRecord 80 image
  let record := InterfaceRecord.ofOctets octets
  let (peers, _) ← readPeers record.peerCount.toNat rest
  return {
    config :=
      { interface := readInterface record, peers := peers.map (·.1) }
    stats := peers.map (·.2) }

end Tunnel.Image
