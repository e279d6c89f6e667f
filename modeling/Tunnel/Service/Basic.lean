import Tunnel.Adapter.Basic
import Tunnel.Key.Exchange
import Tunnel.Network.Pass
import Tunnel.Service.Method
import Tunnel.Watch.Basic

/-!
# The service

The service knows the driver that was loaded last, the adapters that were set
up, each under its name and with the driver it came from, and an observer.
A method call works on this state and on a `Backend`: the loader, the
drivers, the tables and the monitor.
-/

namespace Tunnel

open Service

/-- A driver that a loader has given. -/
structure DriverId where
  number : Nat
deriving DecidableEq

/-- What a service works with. -/
structure Backend (m : Type → Type) where
  /-- Load the driver. -/
  loadDriver : m (Except Error DriverId)
  driver : DriverId → Driver m
  table : RouteTable m
  monitor : Monitor m
  /-- Thirty-two random octets. -/
  entropy : m (Octets 32)
  /--
  The observer as its consumers, which run beside a call, have left it since
  the call looked at it last.
  -/
  meanwhile : Observer → m Observer

/-- An adapter that was set up, and its driver. -/
structure KnownAdapter where
  driver : DriverId
  adapter : Adapter

/-- The state of the service. -/
structure Service where
  driver : Option DriverId := none
  adapters : List KnownAdapter := []
  observer : Observer := {}

namespace Service

/-- What a successful call answers. -/
inductive Reply
  | done
  | flag (value : Bool)
  | status (value : ConnectionStatus)
  | keyPair (pair : KeyPair)

/-- The outcome of a call. -/
abbrev Outcome := Except Failure Reply

variable {m : Type → Type} [Monad m]

/-- The known adapter of a name. -/
def find? (service : Service) (name : String) : Option KnownAdapter :=
  service.adapters.find? (·.adapter.name = name)

/-- The state with another adapter in place of the first of its name. -/
def replace (service : Service) (adapter : Adapter) : Service :=
  { service with
    adapters :=
      replaceFirst service.adapters }
where
  replaceFirst : List KnownAdapter → List KnownAdapter
    | [] => []
    | known :: rest =>
        if known.adapter.name = adapter.name then
          { known with adapter } :: rest
        else known :: replaceFirst rest

/--
Watch an interface and publish its status.  A monitor that cannot be asked
leaves everything as it was.
-/
def observe (backend : Backend m) (service : Service)
    (interface : InterfaceId) : m Service := do
  let observer ← backend.meanwhile service.observer
  match ← observer.enrolWith backend.monitor interface with
  | (observer, .enrolled) =>
      let answer ← backend.monitor.status interface
      let observer ← backend.meanwhile observer
      return { service with
        observer := observer.publish interface (readStatus answer) }
  | (observer, _) => return { service with observer }

/-! ## Methods -/

/-- The adapter that was set up last can be used. -/
def checkTunnelConfiguration (service : Service) : Bool :=
  (service.adapters.getLast?).any (·.adapter.isValid)

/-- Load the driver. -/
def nativeInit (backend : Backend m) (service : Service) :
    m (Service × Outcome) := do
  match ← backend.loadDriver with
  | .ok driver => return ({ service with driver := some driver }, .ok .done)
  | .error error =>
      return (service,
        .error (.causedBy .libraryNotAvailable
          "Failed to load tunnel driver" error))

/-- Open the adapter of a name, or create it when it cannot be opened. -/
def acquire (driver : Driver m) (name : String) :
    m (Except Error Adapter) := do
  match ← Adapter.openExisting driver name with
  | .ok adapter => return .ok adapter
  | .error _ => Adapter.create driver name defaultTunnelType

/-- Get an adapter of a name, and watch its interface. -/
def setupTunnel (backend : Backend m) (service : Service)
    (name : String) : m (Service × Outcome) := do
  match service.driver with
  | none =>
      return (service,
        .error
          { code := .libraryNotAvailable
            message := "Tunnel driver is not loaded" })
  | some driver =>
      match service.find? name with
      | some known =>
          match ← known.adapter.identifier (backend.driver known.driver) with
          | .ok interface =>
              let service ← service.observe backend interface
              return (service, .ok .done)
          | .error _ => return (service, .ok .done)
      | none =>
          match ← acquire (backend.driver driver) name with
          | .error error =>
              return (service,
                .error (.causedBy .adapterCreationFailed
                  s!"Failed to create adapter {name}" error))
          | .ok adapter =>
              let service ←
                match ← adapter.identifier (backend.driver driver) with
                | .ok interface => service.observe backend interface
                | .error _ => pure service
              return ({ service with
                adapters := service.adapters ++ [{ driver, adapter }] },
                .ok .done)

/-- The code for an adapter that did not take a document. -/
def applyCode : Error → ErrorCode
  | .parse _ _ | .key _ => .configurationParseFailed
  | .notBroughtUp _ => .adapterStateFailed
  | _ => .configurationFailed

/-- Give an interface the addresses and routes of a configuration. -/
def install (table : RouteTable m) (interface : InterfaceId)
    (config : Config) : m (Except Failure Unit) := do
  let addresses ←
    if config.interface.addresses.isEmpty then pure (.ok {})
    else Network.addAddresses table interface config.interface.addresses
  match addresses with
  | .error error =>
      return .error (.causedBy .ipConfigurationFailed
        "Failed to configure IP addresses on adapter" error)
  | .ok _ =>
      match ← Network.addRoutes table interface config.routes with
      | .error error =>
          return .error (.causedBy .ipConfigurationFailed
            "Failed to configure routes for peer allowed IPs" error)
      | .ok _ => return .ok ()

/-- An adapter that is known but has been closed. -/
def adapterInvalid : Failure :=
  { code := .adapterInvalid, message := "Adapter is not valid" }

/--
Watch an interface that is not watched.  Of one that is, the subscription is
left as it is.
-/
def observeNew (backend : Backend m) (service : Service)
    (interface : InterfaceId) : m Service := do
  let observer ← backend.meanwhile service.observer
  let service := { service with observer }
  if observer.isWatching interface then return service
  else service.observe backend interface

/-- Apply a document to an adapter and set up its interface. -/
def connect (backend : Backend m) (service : Service)
    (name document : String) : m (Service × Outcome) := do
  match service.find? name with
  | none =>
      return (service,
        .error
          { code := .adapterNotFound
            message := "Adapter not found. Call 'setupTunnel' first." })
  | some known =>
      if !known.adapter.isValid then
        return (service, .error adapterInvalid)
      else
        let driver := backend.driver known.driver
        let (applied, adapter) ← known.adapter.apply driver document
        let service := service.replace adapter
        match applied with
        | .error error =>
            return (service,
              .error (.causedBy (applyCode error)
                "Failed to apply configuration to adapter" error))
        | .ok config =>
            match ← adapter.identifier driver with
            | .error _ => return (service, .ok .done)
            | .ok interface =>
                match ← install backend.table interface config with
                | .error failure => return (service, .error failure)
                | .ok () =>
                    let service ← service.observeNew backend interface
                    return (service, .ok .done)

/-- Bring an adapter down, clean up after it, and stop watching it. -/
def disconnect (backend : Backend m) (service : Service)
    (name : String) : m (Service × Outcome) := do
  match service.find? name with
  | none =>
      return (service,
        .error
          { code := .adapterNotFound, message := "Adapter not found" })
  | some known =>
      if !known.adapter.isValid then
        return (service, .error adapterInvalid)
      else
        let driver := backend.driver known.driver
        match ← known.adapter.setState driver .down with
        | .error error =>
            return (service,
              .error (.causedBy .adapterStateFailed
                "Failed to set adapter state to down" error))
        | .ok () =>
            match ← known.adapter.identifier driver with
            | .error _ => return (service, .ok .done)
            | .ok interface =>
                let _ ← Network.removeAllAddresses backend.table interface
                let _ ← Network.removeAllRoutes backend.table interface
                let observer ← backend.meanwhile service.observer
                return ({ service with observer := observer.stop interface },
                  .ok .done)

/-- Whether an adapter is up. -/
def adapterStatus (backend : Backend m) (service : Service)
    (name : String) : m Outcome := do
  match (service.find? name).filter (·.adapter.isValid) with
  | none => return .ok (.status .disconnected)
  | some known =>
      match ← known.adapter.state (backend.driver known.driver) with
      | .ok .up => return .ok (.status .connected)
      | .ok .down => return .ok (.status .disconnected)
      | .error error =>
          return .error (.causedBy .unknownError
            "Failed to read adapter state" error)

/-- A fresh pair of keys. -/
def generateKeyPair (backend : Backend m) : m KeyPair := do
  let entropy ← backend.entropy
  return KeyPair.generate entropy

/-- Answer a call that names an adapter. -/
def withAdapter (service : Service) (arguments : Arguments)
    (call : String → m (Service × Outcome)) : m (Service × Outcome) :=
  match required arguments adapterArgument with
  | .error failure => return (service, .error failure)
  | .ok name => call name

/-- Answer a call. -/
def call (backend : Backend m) (service : Service) (arguments : Arguments) :
    Method → m (Service × Outcome)
  | .generateKeyPair => do
      let pair ← generateKeyPair backend
      return (service, .ok (.keyPair pair))
  | .checkTunnelConfiguration =>
      return (service, .ok (.flag service.checkTunnelConfiguration))
  | .nativeInit => service.nativeInit backend
  | .setupTunnel =>
      service.withAdapter arguments (service.setupTunnel backend)
  | .connect =>
      service.withAdapter arguments fun name =>
        match required arguments documentArgument with
        | .error failure => return (service, .error failure)
        | .ok document => service.connect backend name document
  | .disconnect =>
      service.withAdapter arguments (service.disconnect backend)
  | .status =>
      service.withAdapter arguments fun name => do
        let outcome ← service.adapterStatus backend name
        return (service, outcome)

/-- Answer a call by the name of its method. -/
def dispatch (backend : Backend m) (service : Service) (method : String)
    (arguments : Arguments) : m (Service × Outcome) :=
  match Method.ofName method with
  | .error failure => return (service, .error failure)
  | .ok method => service.call backend arguments method

/-- Close adapters in order. -/
def closeAll (backend : Backend m) : List KnownAdapter → m Unit
  | [] => return ()
  | known :: rest => do
      let _ ← known.adapter.close (backend.driver known.driver)
      closeAll backend rest

/-- Stop watching and release every adapter. -/
def shutdown (backend : Backend m) (service : Service) : m Service := do
  let observer ← backend.meanwhile service.observer
  closeAll backend service.adapters
  return { service with observer := observer.stopAll, adapters := [] }

/-- The service goes away: its adapters are closed and watching ends. -/
def dispose (backend : Backend m) (service : Service) : m Service := do
  closeAll backend service.adapters
  return { service with
    observer := service.observer.dismiss, adapters := [] }

end Service

end Tunnel
