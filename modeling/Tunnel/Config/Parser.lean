import Tunnel.Config.Basic
import Tunnel.Config.Document
import Tunnel.Error.Basic

/-!
# Reading configuration documents

An entry belongs to the section whose header comes last before it.  Entries
of `[Interface]` sections all set the one local interface; each `[Peer]`
header starts a new peer; entries elsewhere, and entries whose key the
section does not know, have no meaning.  A value that cannot be read stops
the reading, and the error names its line.
-/

namespace Tunnel.Config

/-! ## Values -/

/-- Why the value of an entry cannot be read. -/
inductive Fault
  | emptyKey
  | key (fault : Key.Fault)
  | number (name value : List Char)
  | network (fault : Prefix.Fault)
  | endpoint (value : List Char)
deriving DecidableEq

/-- The wording of a fault. -/
def Fault.message : Fault → String
  | .emptyKey => "empty key"
  | .key fault => (Error.key fault.message).message
  | .number name value =>
      s!"invalid {String.ofList name} '{String.ofList value}'"
  | .network fault => fault.message
  | .endpoint value => s!"invalid endpoint '{String.ofList value}'"

/-- A key; the value must not be empty. -/
def keyValue (value : List Char) : Except Fault Key :=
  if value = [] then .error .emptyKey
  else (Key.ofText value).mapError .key

/-- A number of sixteen bits, for the entry of some name. -/
def numberValue (name value : List Char) : Except Fault UInt16 :=
  match Numeral.word16? value with
  | some number => .ok number
  | none => .error (.number name value)

/--
The items of a list: nothing for an empty value, and otherwise the parts
between commas, where one comma may end the list.
-/
def listItems (value : List Char) : List (List Char) :=
  if value = [] then []
  else
    let items := Text.split ',' value
    if 1 < items.length ∧ items.getLast? = some [] then items.dropLast
    else items

/-- A list of prefixes. -/
def networksValue (value : List Char) : Except Fault (List Prefix) :=
  (listItems value).mapM fun item => (Prefix.ofText item).mapError .network

/-- The endpoint of a peer. -/
def endpointValue (value : List Char) : Except Fault Endpoint :=
  match Endpoint.ofText? value with
  | some endpoint => .ok endpoint
  | none => .error (.endpoint value)

/-! ## Entries -/

/-- The local interface after one of its entries. -/
def Interface.set (interface : Interface) (key value : List Char) :
    Except Fault Interface :=
  match String.ofList key with
  | "PrivateKey" =>
      (keyValue value).map fun key =>
        { interface with privateKey := some key }
  | "PublicKey" =>
      (keyValue value).map fun key =>
        { interface with publicKey := some key }
  | "ListenPort" =>
      (numberValue key value).map fun port =>
        { interface with listenPort := some port }
  | "Address" =>
      (networksValue value).map fun networks =>
        { interface with addresses := interface.addresses ++ networks }
  | _ => .ok interface

/-- A peer after one of its entries. -/
def Peer.set (peer : Peer) (key value : List Char) : Except Fault Peer :=
  match String.ofList key with
  | "PublicKey" =>
      (keyValue value).map fun key => { peer with publicKey := some key }
  | "PresharedKey" =>
      (keyValue value).map fun key => { peer with presharedKey := some key }
  | "PersistentKeepalive" =>
      (numberValue key value).map fun seconds =>
        { peer with persistentKeepalive := some seconds }
  | "Endpoint" =>
      (endpointValue value).map fun endpoint =>
        { peer with endpoint := some endpoint }
  | "AllowedIPs" =>
      (networksValue value).map fun networks =>
        { peer with allowedIps := peer.allowedIps ++ networks }
  | _ => .ok peer

/-! ## Sections -/

/-- The section that the next entry belongs to. -/
inductive Section
  | outside
  | interface
  | peer (peer : Peer)
  | unknown
deriving DecidableEq

/-- The section that a header starts. -/
def Section.named (name : List Char) : Section :=
  match String.ofList name with
  | "Interface" => .interface
  | "Peer" => .peer {}
  | _ => .unknown

/-- What has been read: a configuration and the section at hand. -/
structure Draft where
  config : Config := {}
  current : Section := .outside
deriving DecidableEq

/-- The configuration with the peer at hand as its last. -/
def Draft.finish (draft : Draft) : Config :=
  match draft.current with
  | .peer peer =>
      { draft.config with peers := draft.config.peers ++ [peer] }
  | _ => draft.config

/-- What has been read after one more line. -/
def Draft.read (draft : Draft) : Line → Except Fault Draft
  | .skipped => .ok draft
  | .header name =>
      .ok { config := draft.finish, current := Section.named name }
  | .entry key value =>
      match draft.current with
      | .interface =>
          (draft.config.interface.set key value).map fun interface =>
            { draft with config := { draft.config with interface } }
      | .peer peer =>
          (peer.set key value).map fun peer =>
            { draft with current := .peer peer }
      | .outside | .unknown => .ok draft

/--
What has been read after some lines, the first of which has the given number;
or the number of the first line that cannot be read, and why.
-/
def Draft.readAll (draft : Draft) :
    (number : Nat) → List Line → Except (Nat × Fault) Draft
  | _, [] => .ok draft
  | number, line :: rest =>
      match draft.read line with
      | .error fault => .error (number, fault)
      | .ok draft => draft.readAll (number + 1) rest

/-- The configuration that a document describes. -/
def parseText (text : List Char) : Except (Nat × Fault) Config :=
  (Draft.readAll {} 1 (documentLines text)).map Draft.finish

/-- The configuration that a document describes. -/
def parse (text : String) : Except Error Config :=
  (parseText text.toList).mapError fun (line, fault) =>
    .parse line fault.message

end Tunnel.Config
