import Tunnel.Command.Help
import Tunnel.Config.Parser
import Tunnel.Error.Values
import Tunnel.Image.Report
import Tunnel.Key.Exchange
import Tunnel.Network.Pass
import Tunnel.Watch.Schedule

/-!
# Running a command

A command reads files, prints, and works with the address and route tables
and the interface monitor of its host.  The host is a record of operations of
a monad, so that a command runs against a device or against a state.  An
error ends a command: it is reported on one line, and the exit status says
so.
-/

namespace Tunnel.Command

/-- Where a command prints and complains. -/
structure Console (m : Type → Type) where
  /-- Print octets on the standard output. -/
  print : List UInt8 → m Unit
  /-- Print a text on the standard error. -/
  complain : String → m Unit

/-- What a command finds around it. -/
structure Host (m : Type → Type) extends Console m where
  /-- The content of a file. -/
  fetch : String → m (Except Error (List UInt8))
  /-- Make octets the content of a file. -/
  store : String → List UInt8 → m (Except Error Unit)
  /-- The whole standard input. -/
  input : m (Except Error (List UInt8))
  /-- Thirty-two random octets. -/
  entropy : m (Octets 32)
  openTable : m (Except Error (RouteTable m))
  openMonitor : m (Except Error (Monitor m × Watch.Reading m))
  /-- Repeat something whenever there may be news, until interrupted. -/
  untilInterrupted :
    (Watch.Schedule → m Watch.Schedule) → Watch.Schedule → m Watch.Schedule

/-- How a command ends. -/
inductive Exit
  | success
  | failure
  /-- The command line was not understood. -/
  | misuse
deriving DecidableEq

def Exit.status : Exit → UInt32
  | success => 0
  | failure => 1
  | misuse => 2

/-- The text that octets encode, if they encode one. -/
def textOf (octets : List UInt8) : Except Error String :=
  match String.fromUTF8? ⟨octets.toArray⟩ with
  | some text => .ok text
  | none => .error (.io (.other "stream did not contain valid UTF-8"))

section

variable {m : Type → Type} [Monad m]

def Console.printText (console : Console m) (text : String) : m Unit :=
  console.print (Key.textOctets text.toList)

def Console.printLine (console : Console m) (text : String) : m Unit :=
  console.printText (text ++ "\n")

/-! ## Documents -/

/-- The configuration in a file. -/
def load (host : Host m) (file : String) : ExceptT Error m Config := do
  let octets ← ExceptT.mk (host.fetch file)
  let text ← liftExcept (textOf octets)
  liftExcept (Config.parse text)
where
  liftExcept {α : Type} (result : Except Error α) : ExceptT Error m α :=
    ExceptT.mk (pure result)

/-- What a document contains, in one line. -/
def checkReport (file : String) (config : Config) : String :=
  s!"{file}: {config.interface.addresses.length} address(es), " ++
    s!"{config.peers.length} peer(s), {config.routes.length} allowed prefix(es), " ++
    s!"{Image.requiredSize config} bytes compiled"

def check (host : Host m) (file : String) : ExceptT Error m Unit := do
  let config ← load host file
  host.printLine (checkReport file config)

/-- An image as a line of hexadecimal digits. -/
def hexLine (image : List UInt8) : List UInt8 :=
  Key.textOctets (Hex.encode image ++ ['\n'])

def compile (host : Host m) (file : String) (output : Option String)
    (hex : Bool) : ExceptT Error m Unit := do
  let config ← load host file
  let image ← ExceptT.mk (pure (Image.compile config))
  let octets := if hex then hexLine image else image
  match output with
  | some output => ExceptT.mk (host.store output octets)
  | none => host.print octets

def decode (host : Host m) (file : String) : ExceptT Error m Unit := do
  let octets ← ExceptT.mk (host.fetch file)
  let decoded ← ExceptT.mk (pure (Image.decode octets))
  host.printText (String.ofList decoded.report)

def print (host : Host m) (file : String) : ExceptT Error m Unit := do
  let config ← load host file
  host.printText (toString config)

/-! ## Keys -/

def generateKey (host : Host m) : ExceptT Error m Unit := do
  let entropy ← host.entropy
  host.printLine (toString (Key.clamped entropy))

def generateShared (host : Host m) : ExceptT Error m Unit := do
  let entropy ← host.entropy
  host.printLine (toString (Key.mk entropy))

def publicKey (host : Host m) : ExceptT Error m Unit := do
  let octets ← ExceptT.mk host.input
  let text ← ExceptT.mk (pure (textOf octets))
  let secret ← ExceptT.mk (pure (Key.parse text))
  host.printLine (toString secret.publicKey)

/-! ## Interfaces -/

/-- Report on a pass: what it did, and what it could not do. -/
def reportPass (console : Console m) (what : String) (pass : Network.Pass) :
    m Unit := do
  console.printLine s!"{what}: {pass.summaryText}"
  pass.failures.forM fun failure =>
    console.complain s!"  {failure.message}\n"

/-- Give an interface the addresses and routes of a document. -/
def up (host : Host m) (index : UInt32) (file : String) :
    ExceptT Error m Unit := do
  let config ← load host file
  let table ← ExceptT.mk host.openTable
  let interface := InterfaceId.ofIndex index
  let addresses ← ExceptT.mk
    (Network.addAddresses table interface config.interface.addresses)
  ExceptT.lift (reportPass host.toConsole "addresses" addresses)
  let routes ← ExceptT.mk
    (Network.addRoutes table interface config.routes)
  ExceptT.lift (reportPass host.toConsole "routes" routes)

/--
Remove the addresses of an interface and then its routes.  Failed deletions
are reported and do not keep others from being tried, but a table that cannot
be listed ends the command.
-/
def removeAll (console : Console m) (table : RouteTable m)
    (interface : InterfaceId) : ExceptT Error m Exit := do
  let addresses ← ExceptT.mk (Network.removeAllAddresses table interface)
  ExceptT.lift (reportPass console "addresses" addresses)
  let routes ← ExceptT.mk (Network.removeAllRoutes table interface)
  ExceptT.lift (reportPass console "routes" routes)
  return if addresses.isSuccess && routes.isSuccess then .success
    else .failure

def down (host : Host m) (index : UInt32) : ExceptT Error m Exit := do
  let table ← ExceptT.mk host.openTable
  removeAll host.toConsole table (InterfaceId.ofIndex index)

/-! ## Watching -/

/-- Begin to watch interfaces, each once its predecessor has its status. -/
def watchEach (monitor : Monitor m) (reading : Watch.Reading m)
    (schedule : Watch.Schedule) :
    List InterfaceId → ExceptT Error m Watch.Schedule
  | [] => return schedule
  | interface :: rest => do
      match ← ExceptT.lift (schedule.start monitor reading interface) with
      | (_, .refused error) => throw error
      | (schedule, _) =>
          let schedule ←
            ExceptT.lift (schedule.settle monitor reading)
          watchEach monitor reading schedule rest

/-- Print the events on the sink, and take them off. -/
def printEvents (console : Console m) (schedule : Watch.Schedule) :
    m Watch.Schedule := do
  schedule.observer.outbox.forM fun event =>
    console.printLine event.toJson
  return { schedule with observer := { schedule.observer with outbox := [] } }

/-- Print the statuses of interfaces until interrupted. -/
def watch (host : Host m) (indexes : List UInt32) :
    ExceptT Error m Unit := do
  let (monitor, reading) ← ExceptT.mk host.openMonitor
  let schedule : Watch.Schedule := { observer := ({} : Observer).listen }
  let schedule ← watchEach monitor reading schedule
    (indexes.map InterfaceId.ofIndex)
  let _ ← ExceptT.lift
    (host.untilInterrupted (printEvents host.toConsole) schedule)
  return ()

/-! ## Command lines -/

/-- Do what a command asks for. -/
def perform (host : Host m) : Task → ExceptT Error m Exit
  | .check file => succeed (check host file)
  | .compile file output hex => succeed (compile host file output hex)
  | .decode file => succeed (decode host file)
  | .print file => succeed (print host file)
  | .generateKey => succeed (generateKey host)
  | .publicKey => succeed (publicKey host)
  | .generateShared => succeed (generateShared host)
  | .up index file => succeed (up host index file)
  | .down index => down host index
  | .monitor indexes => succeed (watch host indexes)
where
  succeed (action : ExceptT Error m Unit) : ExceptT Error m Exit := do
    action
    return .success

/-- Run a task, and report the error that ends it. -/
def runTask (host : Host m) (task : Task) : m Exit := do
  match ← (perform host task).run with
  | .ok exit => return exit
  | .error error =>
      host.complain s!"Error: {error}\n"
      return .failure

/-- Run a command line of a program of some name. -/
def run (host : Host m) (program : String) (arguments : List String) :
    m Exit :=
  match read arguments with
  | .task task => runTask host task
  | .help topic => do
      host.printText (helpText program topic)
      return .success
  | .version => do
      host.printLine s!"{program} {programVersion}"
      return .success
  | .refused => do
      host.complain (helpText program .program)
      return .misuse

end

end Tunnel.Command
