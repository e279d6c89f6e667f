import Tunnel.Error.Basic
import Tunnel.Netlink.Attribute

/-!
# Packets

A datagram holds packets one after another: a header of sixteen octets that
begins with the length of the packet, a payload, and zeros up to a multiple
of four.  A length that does not fit ends the reading with an error; fewer
than sixteen octets end it without one.
-/

namespace Tunnel.Netlink

/-- The size of a packet's header. -/
def headerSize : Nat := 16

/-- The header of a packet. -/
structure Header where
  length : UInt32
  type : UInt16
  flags : UInt16
  sequence : UInt32
  port : UInt32
deriving DecidableEq

/-! ## Packet types -/

namespace PacketType

def error : UInt16 := 2
def done : UInt16 := 3
def newLink : UInt16 := 16
def deleteLink : UInt16 := 17
def getLink : UInt16 := 18
def newAddress : UInt16 := 20
def deleteAddress : UInt16 := 21
def getAddress : UInt16 := 22
def newRoute : UInt16 := 24
def deleteRoute : UInt16 := 25
def getRoute : UInt16 := 26

end PacketType

namespace Header

def isError (header : Header) : Bool := header.type = PacketType.error

def isDone (header : Header) : Bool := header.type = PacketType.done

def toOctets (header : Header) : List UInt8 :=
  littleEndian 4 header.length.toNat ++ littleEndian 2 header.type.toNat ++
    littleEndian 2 header.flags.toNat ++
    littleEndian 4 header.sequence.toNat ++
    littleEndian 4 header.port.toNat

/-- The header in the first sixteen octets. -/
def ofOctets (octets : List UInt8) : Header where
  length := UInt32.ofNat (wordAt 4 octets)
  type := UInt16.ofNat (wordAt 2 (octets.drop 4))
  flags := UInt16.ofNat (wordAt 2 (octets.drop 6))
  sequence := UInt32.ofNat (wordAt 4 (octets.drop 8))
  port := UInt32.ofNat (wordAt 4 (octets.drop 12))

/-- The header at the start of some octets. -/
def read (octets : List UInt8) : Except Error Header :=
  if headerSize ≤ octets.length then .ok (ofOctets octets)
  else .error (.truncated headerSize octets.length)

@[simp]
theorem length_toOctets (header : Header) :
    header.toOctets.length = headerSize := by
  simp [toOctets, headerSize]

end Header

/-- A packet. -/
structure Packet where
  header : Header
  payload : List UInt8
deriving DecidableEq

namespace Packet

/-- The packets of a datagram; an error is the last item. -/
def readAll (datagram : List UInt8) : List (Except Error Packet) :=
  if datagram.length < headerSize then []
  else
    let length := wordAt 4 datagram
    if _inside : headerSize ≤ length ∧ length ≤ datagram.length then
      .ok
          { header := Header.ofOctets datagram
            payload := (datagram.take length).drop headerSize } ::
        readAll (datagram.drop (align length))
    else
      [.error (.invalidMessage s!"invalid message length: {length}")]
termination_by datagram.length
decreasing_by
  have wide := le_align (wordAt 4 datagram)
  simp only [headerSize] at *
  simp only [List.length_drop]
  omega

/-- A packet with its padding. -/
def toOctets (packet : Packet) : List UInt8 :=
  packet.header.toOctets ++ packet.payload ++
    padding (headerSize + packet.payload.length)

end Packet

/-! ## Errors of the kernel -/

/-- The payload of an error packet: a code and the header it is about. -/
structure Complaint where
  /-- A negated error number; zero acknowledges. -/
  code : Int
  header : Header
deriving DecidableEq

namespace Complaint

/-- The size of a code and a header. -/
def size : Nat := 20

/-- The signed number that 32 bits stand for. -/
def signed32 (value : Nat) : Int :=
  if value < 0x80000000 then value else (value : Int) - 0x100000000

/-- The complaint at the start of a payload. -/
def read (payload : List UInt8) : Except Error Complaint :=
  if size ≤ payload.length then
    .ok
      { code := signed32 (wordAt 4 payload)
        header := Header.ofOctets (payload.drop 4) }
  else .error (.truncated size payload.length)

def isAcknowledgement (complaint : Complaint) : Bool :=
  complaint.code = 0

end Complaint

/-- Nothing for an acknowledgement, and else the error of the kernel. -/
def checkError (payload : List UInt8) : Except Error Unit := do
  let complaint ← Complaint.read payload
  if complaint.isAcknowledgement then return ()
  else throw (Error.ofErrno complaint.code)

end Tunnel.Netlink
