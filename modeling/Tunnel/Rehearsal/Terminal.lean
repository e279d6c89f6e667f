import Tunnel.Command.Run
import Tunnel.Rehearsal.Directory
import Tunnel.Rehearsal.Sockets

/-!
# A terminal held in memory

A command runs in one directory of files, with its standard streams and with
sockets that a script answers.  Nothing more happens once the script is used
up, so watching ends after what there is has been printed.
-/

namespace Tunnel.Rehearsal

/-- What a command finds and leaves. -/
structure Terminal where
  /-- The files of the directory. -/
  files : List (String × List UInt8) := []
  input : List UInt8 := []
  output : List UInt8 := []
  complaints : String := ""
  sockets : Sockets
  entropy : Octets 32 := Octets.zero 32

namespace Terminal

/-- The content of a file, if there is one of the name. -/
def content? (terminal : Terminal) (name : String) : Option (List UInt8) :=
  (terminal.files.find? (·.1 = name)).map (·.2)

/-- What a path leads to. -/
def place (terminal : Terminal) (creates : Bool) (path : String) : Place :=
  follow (fun name => (terminal.content? name).isSome) creates path

/-- A failed system call. -/
def refuse {α : Type} (fault : IoFault) : Except Error α :=
  .error (.io fault)

/-- Read a file. -/
def fetch (path : String) (terminal : Terminal) :
    Except Error (List UInt8) :=
  match terminal.place false path with
  | .folder => refuse (.system Errno.isDirectory)
  | .nowhere fault => refuse fault
  | .special .input => .ok terminal.input
  | .special _ => .ok []
  | .file name =>
      match terminal.content? name with
      | some octets => .ok octets
      | none => refuse (.system Errno.noEntry)

/-- Write a file, in place of one of its name. -/
def store (path : String) (octets : List UInt8) (terminal : Terminal) :
    Except Error Unit × Terminal :=
  match terminal.place true path with
  | .folder => (refuse (.system Errno.isDirectory), terminal)
  | .nowhere fault => (refuse fault, terminal)
  | .special .output =>
      (.ok (), { terminal with output := terminal.output ++ octets })
  | .special _ => (.ok (), terminal)
  | .file name =>
      let others := terminal.files.filter (·.1 ≠ name)
      (.ok (), { terminal with files := others ++ [(name, octets)] })

/-- Work with the sockets. -/
def onSockets {α : Type} (act : StateM Sockets α) : StateM Terminal α :=
  modifyGet fun terminal =>
    let (result, sockets) := act terminal.sockets
    (result, { terminal with sockets })

/-- The connection for requests, before something that works with it. -/
def connected {α : Type} (value : α) : StateM Terminal (Except Error α) := do
  return (← get).sockets.connect.map fun _ => value

/-- The terminal as the host of a command. -/
def host : Command.Host (StateM Terminal) where
  print octets :=
    modify fun terminal =>
      { terminal with output := terminal.output ++ octets }
  complain text :=
    modify fun terminal =>
      { terminal with complaints := terminal.complaints ++ text }
  fetch name := do return (← get).fetch name
  store name octets := modifyGet (store name octets)
  input := do return .ok (← get).input
  entropy := do return (← get).entropy
  openTable := connected (Sockets.table.lift onSockets)
  openMonitor :=
    connected
      (Sockets.monitor.lift onSockets, Sockets.reading.lift onSockets)
  untilInterrupted repeated schedule := repeated schedule

end Terminal

end Tunnel.Rehearsal
