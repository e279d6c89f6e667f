import Tunnel.Netlink.Request

/-!
# Connections

A connection sends requests and reads the packets that answer them.  Requests
are numbered, and a packet belongs to the request whose sequence number it
carries.  What will arrive on a connection is a list of datagrams and failed
receptions, so that an exchange is a function of that list; when it is used
up, receiving fails.

Three kinds of exchange differ in what ends them: `request` ends with the
first packet that answers, `dump` with the packet that says so, and
`acknowledge` with the datagram that is received first.
-/

namespace Tunnel.Netlink

/-- What receiving gives. -/
inductive Arrival
  | datagram (octets : List UInt8)
  | fault (errno : Int)
deriving DecidableEq

/-- A connection, with what it has sent and what will arrive on it. -/
structure Connection where
  port : UInt32
  nextSequence : UInt32 := 1
  incoming : List Arrival := []
  /-- The failures that the next sendings meet. -/
  sendFaults : List Int := []
  sent : List (List UInt8) := []
deriving DecidableEq

/-- The most octets of a datagram that are received. -/
def receiveLimit : Nat := 32768

/-- A failed system call on a socket. -/
def systemFault (errno : Int) : Error :=
  .io (.system errno)

/-- A packet that answers a request: its type and its payload. -/
structure Answer where
  type : UInt16
  payload : List UInt8
deriving DecidableEq

/-! ## Receiving -/

/--
The next datagram and what will arrive after it.  A socket that is not ready
is waited for, so the number that says so has no effect.
-/
def receive : List Arrival → Except Error (List UInt8) × List Arrival
  | [] => (.error (systemFault Errno.inputOutput), [])
  | .datagram octets :: rest => (.ok (octets.take receiveLimit), rest)
  | .fault errno :: rest =>
      if errno = Errno.again then receive rest
      else (.error (systemFault errno), rest)

/-- Where the packets of a datagram leave an exchange. -/
inductive Progress (α : Type)
  | finished (result : α)
  | failed (error : Error)
  | unfinished

/-- Look for the answer to a request. -/
def scanAnswer (sequence : UInt32) :
    List (Except Error Packet) → Progress Answer
  | [] => .unfinished
  | .error error :: _ => .failed error
  | .ok packet :: rest =>
      if packet.header.sequence ≠ sequence then scanAnswer sequence rest
      else if packet.header.isError then
        match checkError packet.payload with
        | .error error => .failed error
        | .ok () => scanAnswer sequence rest
      else
        .finished { type := packet.header.type, payload := packet.payload }

/-- Look for the acknowledgement of a request. -/
def scanAcknowledgement (sequence : UInt32) :
    List (Except Error Packet) → Except Error Unit
  | [] => .error (.invalidMessage "expected ACK message")
  | .error error :: _ => .error error
  | .ok packet :: rest =>
      if packet.header.sequence = sequence ∧ packet.header.isError then
        checkError packet.payload
      else scanAcknowledgement sequence rest

/--
Collect the answers to a request up to the packet that ends them.  The
answers so far are in `collected`, the last one first.
-/
def scanDump (sequence : UInt32) (collected : List Answer) :
    List (Except Error Packet) → List Answer × Progress (List Answer)
  | [] => (collected, .unfinished)
  | .error error :: _ => (collected, .failed error)
  | .ok packet :: rest =>
      if packet.header.sequence ≠ sequence then
        scanDump sequence collected rest
      else if packet.header.isError then
        match checkError packet.payload with
        | .error error => (collected, .failed error)
        | .ok () => scanDump sequence collected rest
      else if packet.header.isDone then
        (collected, .finished collected.reverse)
      else
        scanDump sequence
          ({ type := packet.header.type, payload := packet.payload } ::
            collected)
          rest

/-- Receive datagrams until one has the answer to a request. -/
def awaitAnswer (sequence : UInt32) :
    List Arrival → Except Error Answer × List Arrival
  | [] => (.error (systemFault Errno.inputOutput), [])
  | .fault errno :: rest =>
      if errno = Errno.again then awaitAnswer sequence rest
      else (.error (systemFault errno), rest)
  | .datagram octets :: rest =>
      match scanAnswer sequence
          (Packet.readAll (octets.take receiveLimit)) with
      | .finished answer => (.ok answer, rest)
      | .failed error => (.error error, rest)
      | .unfinished => awaitAnswer sequence rest

/-- Receive datagrams until the answers to a request are complete. -/
def awaitDump (sequence : UInt32) (collected : List Answer) :
    List Arrival → Except Error (List Answer) × List Arrival
  | [] => (.error (systemFault Errno.inputOutput), [])
  | .fault errno :: rest =>
      if errno = Errno.again then awaitDump sequence collected rest
      else (.error (systemFault errno), rest)
  | .datagram octets :: rest =>
      match scanDump sequence collected
          (Packet.readAll (octets.take receiveLimit)) with
      | (_, .finished answers) => (.ok answers, rest)
      | (_, .failed error) => (.error error, rest)
      | (collected, .unfinished) => awaitDump sequence collected rest

/-- Receive one datagram, which has to acknowledge a request. -/
def awaitAcknowledgement (sequence : UInt32) (arrivals : List Arrival) :
    Except Error Unit × List Arrival :=
  match receive arrivals with
  | (.error error, rest) => (.error error, rest)
  | (.ok octets, rest) =>
      (scanAcknowledgement sequence (Packet.readAll octets), rest)

namespace Connection

/--
The failure that a sending meets, if there is one, and those that are left.
A socket that is not ready is waited for here as well.
-/
def nextFault : List Int → Option Int × List Int
  | [] => (none, [])
  | errno :: rest =>
      if errno = Errno.again then nextFault rest else (some errno, rest)

/-- Number a request and send it; the number is used up in any case. -/
def send (connection : Connection) (request : Request) :
    Except Error UInt32 × Connection :=
  let sequence := connection.nextSequence
  let packet :=
    { request with sequence, port := connection.port }.toOctets
  let (fault, sendFaults) := nextFault connection.sendFaults
  let connection :=
    { connection with nextSequence := sequence + 1, sendFaults }
  match fault with
  | some errno => (.error (systemFault errno), connection)
  | none =>
      (.ok sequence, { connection with sent := connection.sent ++ [packet] })

/-- Send a request and receive what a way of waiting makes of the answers. -/
def exchange {α : Type}
    (await : UInt32 → List Arrival → Except Error α × List Arrival)
    (connection : Connection) (request : Request) :
    Except Error α × Connection :=
  match connection.send request with
  | (.error error, connection) => (.error error, connection)
  | (.ok sequence, connection) =>
      let (result, incoming) := await sequence connection.incoming
      (result, { connection with incoming })

/-- Send a request that has one answer. -/
def request (connection : Connection) (request : Request) :
    Except Error Answer × Connection :=
  exchange awaitAnswer connection request

/-- Send a request that is only acknowledged. -/
def acknowledge (connection : Connection) (request : Request) :
    Except Error Unit × Connection :=
  exchange awaitAcknowledgement connection request

/-- Send a request that lists something. -/
def dump (connection : Connection) (request : Request) :
    Except Error (List Answer) × Connection :=
  exchange (awaitDump · []) connection request

end Connection

end Tunnel.Netlink
