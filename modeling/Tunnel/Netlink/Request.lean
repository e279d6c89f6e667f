import Tunnel.Netlink.Payload

/-!
# Requests

A request is a packet under construction: its type, flags, sequence number
and port, and a body to which headers and attributes are appended.  The
length is written when the packet is finished.
-/

namespace Tunnel.Netlink

/-! ## Flags -/

namespace RequestFlag

def request : UInt16 := 0x1
def acknowledge : UInt16 := 0x4
def exclusive : UInt16 := 0x200
def create : UInt16 := 0x400
/-- List everything: the root of the table and all that matches. -/
def dump : UInt16 := 0x300

end RequestFlag

/-- A packet under construction. -/
structure Request where
  type : UInt16
  flags : UInt16
  sequence : UInt32 := 0
  port : UInt32 := 0
  body : List UInt8 := []
deriving DecidableEq

namespace Request

/-- A request that the kernel acknowledges. -/
def acknowledged (type flags : UInt16) : Request :=
  { type
    flags := RequestFlag.request ||| RequestFlag.acknowledge ||| flags }

/-- A request for everything of a kind. -/
def dump (type : UInt16) : Request :=
  { type, flags := RequestFlag.request ||| RequestFlag.dump }

/-- The length of the packet. -/
def length (request : Request) : Nat :=
  headerSize + request.body.length

/-- Append octets and fill up to a multiple of four. -/
def append (request : Request) (octets : List UInt8) : Request :=
  let filled := request.length + octets.length
  { request with body := request.body ++ octets ++ padding filled }

/--
Append an attribute.  Its length is written in 16 bits, so that a value of
more than 65531 octets has a wrong one.
-/
def withAttribute (request : Request) (type : UInt16) (value : List UInt8) :
    Request :=
  request.append
    (littleEndian 2 (attributeHeader + value.length) ++
      littleEndian 2 type.toNat ++ value)

/-- Append an attribute of a 32-bit number. -/
def withWord (request : Request) (type : UInt16) (value : UInt32) :
    Request :=
  request.withAttribute type (littleEndian 4 value.toNat)

/-- The finished packet's header. -/
def header (request : Request) : Header where
  length := UInt32.ofNat request.length
  type := request.type
  flags := request.flags
  sequence := request.sequence
  port := request.port

/-- The finished packet. -/
def toOctets (request : Request) : List UInt8 :=
  request.header.toOctets ++ request.body

end Request

end Tunnel.Netlink
