import Tunnel.Adapter.Driver
import Tunnel.Network.Table
import Tunnel.Octets
import Tunnel.Watch.Schedule

/-!
# A world held in memory

For trying the library without a device, one state plays the tunnel driver,
the address and route tables and the interface monitor.  It writes down every
call, fails the calls that a script names, and otherwise behaves as simply as
possible: a driver keeps the image it was given, the tables are lists of
entries, and the monitor knows one status for each interface.
-/

namespace Tunnel.Rehearsal

/-! ## Calls -/

/-- A call of a collaborator. -/
inductive Call
  | create (name tunnelType : String)
  | openExisting (name : String)
  | close (handle : Handle)
  | setState (handle : Handle) (state : AdapterState)
  | state (handle : Handle)
  | identifier (handle : Handle)
  | setLogging (handle : Handle) (state : LogState)
  | setConfiguration (handle : Handle) (image : List UInt8)
  | configuration (handle : Handle) (capacity : Nat)
  | addAddress (interface : InterfaceId) (network : Prefix)
  | addresses
  | deleteAddress (entry : AddressEntry)
  | addRoute (interface : InterfaceId) (destination : Prefix)
  | routes
  | deleteRoute (entry : RouteEntry)
  | subscribe
  | status (interface : InterfaceId)
deriving DecidableEq

def stateName : AdapterState → String
  | .down => "down"
  | .up => "up"

def logName : LogState → String
  | .off => "off"
  | .on => "on"
  | .onWithPrefix => "on_with_prefix"

namespace Call

/-- The name by which a script knows a call. -/
def name : Call → String
  | .create _ _ => "create"
  | .openExisting _ => "open"
  | .close _ => "close"
  | .setState _ .up => "set_state_up"
  | .setState _ .down => "set_state_down"
  | .state _ => "get_state"
  | .identifier _ => "luid"
  | .setLogging _ _ => "set_logging"
  | .setConfiguration _ _ => "set_configuration"
  | .configuration _ _ => "get_configuration"
  | .addAddress _ _ => "add_address"
  | .addresses => "addresses"
  | .deleteAddress _ => "delete_address"
  | .addRoute _ _ => "add_route"
  | .routes => "routes"
  | .deleteRoute _ => "delete_route"
  | .subscribe => "subscribe"
  | .status _ => "oper_status"

/-- What a script can tell apart calls of one name by. -/
def argument : Call → String
  | .create name _ | .openExisting name => name
  | .close handle | .setState handle _ | .state handle | .identifier handle
  | .setLogging handle _ | .setConfiguration handle _
  | .configuration handle _ => toString handle.number
  | .addAddress _ network | .addRoute _ network => toString network
  | .deleteAddress entry => toString entry.network
  | .deleteRoute entry => toString entry.destination
  | .status interface => toString interface
  | .addresses | .routes | .subscribe => ""

/-- The line that a call leaves in the journal. -/
def line : Call → String
  | .create name tunnelType => s!"create {name} {tunnelType}"
  | .openExisting name => s!"open {name}"
  | .close handle => s!"close {handle.number}"
  | .setState handle wanted =>
      s!"set_state {handle.number} {stateName wanted}"
  | .state handle => s!"get_state {handle.number}"
  | .identifier handle => s!"luid {handle.number}"
  | .setLogging handle wanted =>
      s!"set_logging {handle.number} {logName wanted}"
  | .setConfiguration handle image =>
      s!"set_configuration {handle.number} " ++
        String.ofList (Hex.encode image)
  | .configuration handle capacity =>
      s!"get_configuration {handle.number} {capacity}"
  | .addAddress interface network => s!"add_address {interface} {network}"
  | .addresses => "addresses"
  | .deleteAddress entry => s!"delete_address {entry}"
  | .addRoute interface destination =>
      s!"add_route {interface} {destination}"
  | .routes => "routes"
  | .deleteRoute entry => s!"delete_route {entry}"
  | .subscribe => "subscribe"
  | .status interface => s!"oper_status {interface}"

end Call

/-! ## The world -/

/-- A failure that a script plans. -/
structure PlannedFailure where
  call : String
  /-- Only calls with this argument fail, if it is given. -/
  argument : Option String := none
  error : Error
  /-- How often the failure is used, if not for ever. -/
  times : Option Nat := none
  /-- A failed deletion deletes all the same. -/
  removes : Bool := false

/-- An adapter of the world's driver. -/
structure Device where
  handle : Handle
  state : AdapterState := .down

/-- The state of the world. -/
structure World where
  existing : List String := []
  /-- The identifier of an adapter is this number plus that of its handle. -/
  identifierBase : Nat := 100
  devices : List Device := []
  /-- The images that were stored for handles, the latest one first. -/
  images : List (Handle × List UInt8) := []
  addresses : List AddressEntry := []
  routes : List RouteEntry := []
  statuses : List (InterfaceId × OperStatus) := []
  /-- Interfaces whose status readings have to wait. -/
  held : List InterfaceId := []
  nextSource : Nat := 0
  failures : List PlannedFailure := []
  /-- How many octets an image grows by before each reading. -/
  growth : Nat := 0
  /-- The count of octets that the driver claims to have read. -/
  claimedLength : Option Nat := none
  journal : List Call := []

namespace World

/-- The world after one more call. -/
def write (call : Call) (world : World) : World :=
  { world with journal := world.journal ++ [call] }

/-- A planned failure that a call meets. -/
def PlannedFailure.meets (call : Call) (planned : PlannedFailure) : Bool :=
  planned.call = call.name &&
    planned.argument.all (· = call.argument)

/-- Use the first failure that a call meets. -/
def useFailure (call : Call) :
    List PlannedFailure → Option PlannedFailure × List PlannedFailure
  | [] => (none, [])
  | planned :: rest =>
      if PlannedFailure.meets call planned then
        match planned.times with
        | none => (some planned, planned :: rest)
        | some times =>
            if times ≤ 1 then (some planned, rest)
            else (some planned, { planned with times := some (times - 1) } :: rest)
      else
        let (found, rest) := useFailure call rest
        (found, planned :: rest)

/-- The failure of a call, if there is one. -/
def meet (call : Call) : StateM World (Option PlannedFailure) :=
  modifyGet fun world =>
    let (found, failures) := useFailure call world.failures
    (found, { world with failures })

/-- Write a call down and see whether it fails; otherwise go on. -/
def perform {α : Type} (call : Call)
    (act : World → Except Error α × World) : StateM World (Except Error α) := do
  modify (write call)
  match ← meet call with
  | some planned => return .error planned.error
  | none => modifyGet act

/-- A result without an effect. -/
def answer {α : Type} (result : World → Except Error α) (world : World) :
    Except Error α × World :=
  (result world, world)

/-! ### The driver -/

def device? (world : World) (handle : Handle) : Option Device :=
  world.devices.find? (·.handle = handle)

/-- Set the state of a handle. -/
def storeState (handle : Handle) (state : AdapterState) (world : World) :
    World :=
  { world with
    devices := world.devices.map fun device =>
      if device.handle = handle then { device with state } else device }

/-- A new handle. -/
def register (world : World) : Except Error Handle × World :=
  let handle : Handle := ⟨world.devices.length + 1⟩
  (.ok handle, { world with devices := world.devices ++ [{ handle }] })

def addExisting (name : String) (world : World) : World :=
  if world.existing.contains name then world
  else { world with existing := world.existing ++ [name] }

/-- Store the image of a handle. -/
def storeImage (handle : Handle) (image : List UInt8) (world : World) :
    World :=
  { world with
    images := (handle, image) :: world.images.filter (·.1 ≠ handle) }

/-- Give the image of a handle, which may grow before. -/
def giveImage (handle : Handle) (capacity : Nat) (world : World) :
    (Except Error Nat × List UInt8) × World :=
  match world.images.find? (·.1 = handle) with
  | none => ((.error (Error.ofErrno Errno.noEntry), []), world)
  | some (_, image) =>
      let image := image ++ List.replicate world.growth 0
      let world := world.storeImage handle image
      if capacity < image.length then
        ((.error (.bufferTooSmall image.length capacity), []), world)
      else
        ((.ok (world.claimedLength.getD image.length), image), world)

/-- The world as a tunnel driver. -/
def driver : Driver (StateM World) where
  create name tunnelType :=
    perform (.create name tunnelType) fun world =>
      (world.addExisting name).register
  openExisting name :=
    perform (.openExisting name) fun world =>
      if world.existing.contains name then world.register
      else (.error (Error.ofErrno Errno.noEntry), world)
  close handle := modify (write (.close handle))
  setState handle state :=
    perform (.setState handle state) fun world =>
      (.ok (), world.storeState handle state)
  state handle :=
    perform (.state handle) <| answer fun world =>
      .ok (((world.device? handle).map (·.state)).getD .down)
  setConfiguration handle image :=
    perform (.setConfiguration handle image) fun world =>
      (.ok (), world.storeImage handle image)
  configuration handle buffer := do
    let call := Call.configuration handle buffer.length
    modify (write call)
    match ← meet call with
    | some planned => return (.error planned.error, [])
    | none => modifyGet (giveImage handle buffer.length)
  identifier handle :=
    perform (.identifier handle) <| answer fun world =>
      .ok ⟨UInt64.ofNat (world.identifierBase + handle.number)⟩
  setLogging handle state :=
    perform (.setLogging handle state) (answer fun _ => .ok ())

/-! ### The tables -/

/-- Ask for an entry that must not be there yet. -/
def insertEntry {Entry : Type} [DecidableEq Entry] (entry : Entry)
    (entries : List Entry) : Except Error (List Entry) :=
  if entry ∈ entries then .error (Error.ofErrno Errno.entryExists)
  else .ok (entries ++ [entry])

/-- Delete an entry, as far as a planned failure lets it. -/
def delete (call : Call) (remove : World → World) :
    StateM World (Except Error Unit) := do
  modify (write call)
  match ← meet call with
  | some planned =>
      if planned.removes then modify remove
      return .error planned.error
  | none =>
      modify remove
      return .ok ()

/-- The world as address and route tables. -/
def table : RouteTable (StateM World) where
  addAddress interface network :=
    perform (.addAddress interface network) fun world =>
      match insertEntry { interface, network } world.addresses with
      | .error error => (.error error, world)
      | .ok addresses => (.ok (), { world with addresses })
  addresses := perform .addresses (answer fun world => .ok world.addresses)
  deleteAddress entry :=
    delete (.deleteAddress entry) fun world =>
      { world with addresses := world.addresses.filter (· ≠ entry) }
  addRoute interface destination :=
    perform (.addRoute interface destination) fun world =>
      match insertEntry { interface, destination, metric := 0 }
          world.routes with
      | .error error => (.error error, world)
      | .ok routes => (.ok (), { world with routes })
  routes := perform .routes (answer fun world => .ok world.routes)
  deleteRoute entry :=
    delete (.deleteRoute entry) fun world =>
      { world with routes := world.routes.filter (· ≠ entry) }

/-! ### The monitor -/

/-- The status of an interface, or that there is no such interface. -/
def knownStatus (interface : InterfaceId) (world : World) :
    Except Error OperStatus :=
  match world.statuses.find? (·.1 = interface) with
  | some (_, status) => .ok status
  | none => .error (Error.ofErrno Errno.noDevice)

/-- Set the status of an interface, or forget it. -/
def setStatus (interface : InterfaceId) (status : Option OperStatus)
    (world : World) : World :=
  let others := world.statuses.filter (·.1 ≠ interface)
  { world with
    statuses :=
      (status.map fun status => (interface, status)).toList ++ others }

/-- The status of an interface after the failure that its reading may meet. -/
def giveStatus (interface : InterfaceId) :
    StateM World (Except Error OperStatus) := do
  match ← meet (.status interface) with
  | some planned => return .error planned.error
  | none => return knownStatus interface (← get)

/-- The world as an interface monitor. -/
def monitor : Monitor (StateM World) where
  subscribe :=
    perform .subscribe fun world =>
      (.ok world.nextSource, { world with nextSource := world.nextSource + 1 })
  status interface := do
    modify (write (.status interface))
    giveStatus interface

/-- A reading waits while its interface is held. -/
def reading : Watch.Reading (StateM World) where
  ask interface := modify (write (.status interface))
  poll interface := do
    let world ← get
    if world.held.contains interface then return none
    else
      let answer ← giveStatus interface
      return some answer

end World

end Tunnel.Rehearsal
