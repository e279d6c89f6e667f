import Tunnel.Netlink.KernelTable
import Tunnel.Watch.Machine

/-!
# Links

The kernel tells every member of the link group about changes of links, and
answers with the status of one link when asked.  A change that says that a
link is gone has that status, whatever its attributes are; any other change
has the status of its attribute, if there is one.
-/

namespace Tunnel.Netlink

/-- The change in one packet, if it is about a link. -/
def linkChange? (packet : Packet) : Option InterfaceChange := do
  let gone := packet.header.type = PacketType.deleteLink
  guard (gone ∨ packet.header.type = PacketType.newLink)
  let message ← (LinkMessage.read packet.payload).toOption
  return {
    interface := InterfaceId.ofIndex message.header.index
    status :=
      if gone then some .notPresent
      else message.operState.map OperStatus.ofKernel }

/-- The changes in packets, up to the first that cannot be read. -/
def changesOf : List (Except Error Packet) → List InterfaceChange
  | [] => []
  | .error _ :: _ => []
  | .ok packet :: rest => (linkChange? packet).toList ++ changesOf rest

/-- The changes in a datagram. -/
def linkChanges (datagram : List UInt8) : List InterfaceChange :=
  changesOf (Packet.readAll datagram)

/--
The changes that arrive on a group socket, and whether a failed reception
ends them.
-/
def readLinks : List Arrival → List InterfaceChange × Bool
  | [] => ([], false)
  | .fault errno :: rest =>
      if errno = Errno.again then readLinks rest else ([], true)
  | .datagram octets :: rest =>
      let (changes, ended) := readLinks rest
      (linkChanges (octets.take receiveLimit) ++ changes, ended)

/-! ## The status of a link -/

/-- The question for one link. -/
def linkRequest (index : UInt32) : Request :=
  Request.append
    { type := PacketType.getLink, flags := RequestFlag.request }
    (LinkHeader.toOctets { index })

/-- The status in an answer. -/
def linkStatus (answer : Answer) : Except Error OperStatus := do
  if answer.type ≠ PacketType.newLink then
    throw (.invalidMessage
      s!"unexpected reply type {answer.type.toNat}")
  let message ← LinkMessage.read answer.payload
  return (message.operState.map OperStatus.ofKernel).getD .unknown

/-- Ask the kernel for the status of an interface. -/
def operStatus (interface : InterfaceId) (connection : Connection) :
    Except Error OperStatus × Connection :=
  match kernelIndex interface with
  | .error error => (.error error, connection)
  | .ok index =>
      match connection.request (linkRequest index) with
      | (.error error, connection) => (.error error, connection)
      | (.ok answer, connection) => (linkStatus answer, connection)

end Tunnel.Netlink
