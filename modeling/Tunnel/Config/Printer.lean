import Tunnel.Config.Basic

/-!
# Writing configuration documents

The canonical document of a configuration: the local interface, then the
peers, each after an empty line.  A field that is absent and a list that is
empty have no line.
-/

namespace Tunnel.Config

/-- One entry. -/
def entryLine (key value : List Char) : List Char :=
  key ++ " = ".toList ++ value

/-- The entry of an optional field. -/
def optionalLine {α : Type} (key : String) (text : α → List Char) :
    Option α → List (List Char)
  | none => []
  | some value => [entryLine key.toList (text value)]

/-- The entry of a list of prefixes. -/
def listLine (key : String) : List Prefix → List (List Char)
  | [] => []
  | networks =>
      [entryLine key.toList
        (Text.join ", ".toList (networks.map Prefix.toText))]

def wordText (value : UInt16) : List Char :=
  Numeral.decimal value.toNat

/-- The lines of the local interface. -/
def Interface.toLines (interface : Interface) : List (List Char) :=
  ["[Interface]".toList] ++
    optionalLine "PrivateKey" Key.toText interface.privateKey ++
    optionalLine "PublicKey" Key.toText interface.publicKey ++
    optionalLine "ListenPort" wordText interface.listenPort ++
    listLine "Address" interface.addresses

/-- The lines of a peer. -/
def Peer.toLines (peer : Peer) : List (List Char) :=
  [[], "[Peer]".toList] ++
    optionalLine "PublicKey" Key.toText peer.publicKey ++
    optionalLine "PresharedKey" Key.toText peer.presharedKey ++
    optionalLine "Endpoint" Endpoint.toText peer.endpoint ++
    listLine "AllowedIPs" peer.allowedIps ++
    optionalLine "PersistentKeepalive" wordText peer.persistentKeepalive

/-- The lines of the canonical document. -/
def toLines (config : Config) : List (List Char) :=
  config.interface.toLines ++ config.peers.flatMap Peer.toLines

/-- The canonical document. -/
def toText (config : Config) : List Char :=
  config.toLines.flatMap (· ++ ['\n'])

instance : ToString Config where
  toString config := String.ofList config.toText

end Tunnel.Config
