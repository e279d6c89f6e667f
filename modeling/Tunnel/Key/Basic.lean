import Tunnel.Base64
import Tunnel.Octets

/-!
# Keys

A key is a string of thirty-two octets: a private key, a public key or a
secret shared by two peers.  It is written in base64; blanks around the text
do not count.
-/

namespace Tunnel

/-- A private, public or preshared key. -/
structure Key where
  octets : Octets 32
deriving DecidableEq

namespace Key

/-- Why a text is not a key. -/
inductive Fault
  | base64 (fault : Base64.Fault)
  | wrongLength (count : Nat)
deriving DecidableEq

/-- The wording of a fault. -/
def Fault.message : Fault → String
  | .base64 fault => "invalid base64: " ++ fault.message
  | .wrongLength count => s!"expected 32 bytes, got {count}"

/-- The UTF-8 octets of a text. -/
def textOctets (text : List Char) : List UInt8 :=
  text.flatMap String.utf8EncodeChar

/-- The key that a text spells. -/
def ofText (text : List Char) : Except Fault Key :=
  match Base64.decode (textOctets (Text.trim text)) with
  | .error fault => .error (.base64 fault)
  | .ok octets =>
      match Octets.ofList? 32 octets with
      | none => .error (.wrongLength octets.length)
      | some octets => .ok ⟨octets⟩

/-- The base64 text of a key. -/
def toText (key : Key) : List Char :=
  (Base64.encode key.octets.toList).map fun octet => Char.ofNat octet.toNat

instance : ToString Key where
  toString key := String.ofList key.toText

end Key

/-- A private key and the public key derived from it. -/
structure KeyPair where
  secret : Key
  shared : Key

end Tunnel
