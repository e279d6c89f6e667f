import Tunnel.Netlink.Links
import Tunnel.Watch.Schedule

/-!
# Sockets held in memory

For trying the kernel's tables and link changes without a kernel, a script
says what arrives on the sockets that the library opens, and whether opening
one and joining the link group succeed.
-/

namespace Tunnel.Rehearsal

open Netlink

/-- The sockets of a program: the one for requests, and what others meet. -/
structure Sockets where
  connection : Connection
  /-- Why opening a socket fails; zero when it does not. -/
  openFault : Int := 0
  /-- Why joining the group fails; zero when it does not. -/
  joinFault : Int := 0
  nextSource : Nat := 0

namespace Sockets

/-- Open a socket and let it join the link group. -/
def subscribe : StateM Sockets (Except Error Nat) :=
  modifyGet fun sockets =>
    if sockets.openFault ≠ 0 then
      (.error (systemFault sockets.openFault), sockets)
    else if sockets.joinFault ≠ 0 then
      (.error (systemFault sockets.joinFault), sockets)
    else
      (.ok sockets.nextSource,
        { sockets with nextSource := sockets.nextSource + 1 })

/-- Work with the connection for requests. -/
def onConnection {α : Type} (act : StateM Connection α) : StateM Sockets α :=
  modifyGet fun sockets =>
    let (result, connection) := act sockets.connection
    (result, { sockets with connection })

/-- The link group as an interface monitor. -/
def monitor : Monitor (StateM Sockets) where
  subscribe := subscribe
  status interface := onConnection (operStatus interface)

/-- A reading never waits: a request is answered or fails. -/
def reading : Watch.Reading (StateM Sockets) where
  ask _ := pure ()
  poll interface := some <$> onConnection (operStatus interface)

/-- The kernel's tables over the connection for requests. -/
def table : RouteTable (StateM Sockets) :=
  kernelTable.lift onConnection

/-- Open the connection for requests, which may fail. -/
def connect (sockets : Sockets) : Except Error Unit :=
  if sockets.openFault = 0 then .ok ()
  else .error (systemFault sockets.openFault)

end Sockets

end Tunnel.Rehearsal

namespace Tunnel.Observer

open Netlink

/-- What arrives on the group socket of a consumer that still listens. -/
def hear (arrivals : List Arrival) (observer : Observer) : Observer :=
  let (changes, ended) := readLinks arrivals
  { observer with
    consumers := observer.consumers.map fun consumer =>
      if consumer.isReachable then
        let heard := changes.foldl (fun consumer change =>
          Watch.Consumer.deliver change consumer) consumer
        if ended then heard.endSource else heard
      else consumer }

end Tunnel.Observer
