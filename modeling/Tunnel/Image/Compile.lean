import Tunnel.Config.Basic
import Tunnel.Image.Record

/-!
# Compiling a configuration

The image of a configuration always tells the driver to replace what it holds:
the interface record asks for all peers to be replaced, and each peer record
for all its allowed networks.  An absent field leaves its flag clear and its
octets zero.  Addresses of the interface are not part of an image.  All counts
are checked before the first octet is written, and the octets go to the front
of the caller's buffer.
-/

namespace Tunnel.Image

/-- The octets of a key, or zeros. -/
def keyOrZero (key : Option Key) : Key :=
  key.getD ⟨Octets.zero 32⟩

/-- The octets of an endpoint, or zeros. -/
def endpointOrZero : Option Endpoint → Octets 28
  | none => Octets.zero 28
  | some endpoint => ⟨endpointOctets endpoint, length_endpointOctets endpoint⟩

/-- The record of the local interface, for some count of peers. -/
def interfaceRecord (interface : Config.Interface) (peerCount : UInt32) :
    InterfaceRecord where
  flags :=
    InterfaceFlag.replacePeers |||
      flagIf interface.privateKey InterfaceFlag.hasPrivateKey |||
      flagIf interface.publicKey InterfaceFlag.hasPublicKey |||
      flagIf interface.listenPort InterfaceFlag.hasListenPort
  listenPort := interface.listenPort.getD 0
  privateKey := keyOrZero interface.privateKey
  publicKey := keyOrZero interface.publicKey
  peerCount := peerCount

/-- The record of a peer, for some count of allowed networks. -/
def peerRecord (peer : Config.Peer) (allowedIpCount : UInt32) :
    PeerRecord where
  flags :=
    PeerFlag.replaceAllowedIps |||
      flagIf peer.publicKey PeerFlag.hasPublicKey |||
      flagIf peer.presharedKey PeerFlag.hasPresharedKey |||
      flagIf peer.persistentKeepalive PeerFlag.hasPersistentKeepalive |||
      flagIf peer.endpoint PeerFlag.hasEndpoint
  publicKey := keyOrZero peer.publicKey
  presharedKey := keyOrZero peer.presharedKey
  persistentKeepalive := peer.persistentKeepalive.getD 0
  endpoint := endpointOrZero peer.endpoint
  stats := {}
  allowedIpCount := allowedIpCount

/-- The record of an allowed network. -/
def networkRecord (network : Prefix) : List UInt8 :=
  networkOctets network.address (UInt8.ofNat network.length)

/-! ## Sizes -/

/-- The size of a peer's part of an image. -/
def peerSize (peer : Config.Peer) : Nat :=
  PeerRecord.size + peer.allowedIps.length * networkSize

/-- The size of a configuration's image. -/
def requiredSize (config : Config) : Nat :=
  config.peers.foldr (fun peer size => peerSize peer + size)
    InterfaceRecord.size

/-- A count as its 32-bit field holds it. -/
def count (what : Counted) (length : Nat) : Except Error UInt32 :=
  if length < UInt32.size then .ok (UInt32.ofNat length)
  else .error (.tooMany what length)

/-- The count of peers, after all counts of an image have been checked. -/
def counts (config : Config) : Except Error UInt32 := do
  let peerCount ← count .peers config.peers.length
  config.peers.forM fun peer => do
    let _ ← count .allowedIps peer.allowedIps.length
  return peerCount

/-! ## Writing -/

/-- A buffer, and how many of its first octets have been written. -/
structure Writer where
  buffer : List UInt8
  position : Nat := 0

/-- Writing in steps; a step that fails leaves the buffer as it stands. -/
abbrev Writing := ExceptT Error (StateM Writer)

/-- Write a record behind what has been written. -/
def put (record : List UInt8) : Writing Unit := do
  let writer ← get
  let reached := writer.position + record.length
  if writer.buffer.length < reached then
    throw (.sizeMismatch writer.buffer.length reached)
  set {
    buffer :=
      writer.buffer.take writer.position ++ record ++
        writer.buffer.drop reached
    position := reached : Writer }

/-- Write a peer: its record, and one for each of its networks. -/
def putPeer (peer : Config.Peer) : Writing Unit := do
  let allowedIpCount ←
    ExceptT.mk (pure (count .allowedIps peer.allowedIps.length))
  put (peerRecord peer allowedIpCount).toOctets
  peer.allowedIps.forM fun network => put (networkRecord network)

/-- Write all records of a configuration. -/
def putConfig (config : Config) (peerCount : UInt32) : Writing Unit := do
  put (interfaceRecord config.interface peerCount).toOctets
  config.peers.forM putPeer

/--
Write the image at the start of a buffer.  The answer is the size of the
image, and the buffer as it is afterwards.
-/
def compileInto (config : Config) (buffer : List UInt8) :
    Except Error Nat × List UInt8 :=
  let required := requiredSize config
  if buffer.length < required then
    (.error (.bufferTooSmall required buffer.length), buffer)
  else
    match counts config with
    | .error error => (.error error, buffer)
    | .ok peerCount =>
        match (putConfig config peerCount).run.run { buffer } with
        | (.error error, writer) => (.error error, writer.buffer)
        | (.ok (), writer) =>
            if writer.position ≠ required then
              (.error (.sizeMismatch required writer.position),
                writer.buffer)
            else (.ok required, writer.buffer)

/-- The image of a configuration, in a buffer of its size. -/
def compile (config : Config) : Except Error (List UInt8) :=
  match compileInto config (List.replicate (requiredSize config) 0) with
  | (.error error, _) => .error error
  | (.ok written, buffer) => .ok (buffer.take written)

end Tunnel.Image
