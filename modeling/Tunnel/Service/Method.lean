import Tunnel.Error.Basic

/-!
# Methods and error codes of the service

The host application calls methods by name and gets an error code and a
message when a call fails.  Names and codes do not change.
-/

namespace Tunnel.Service

/-- Why a call failed, for the host to act on. -/
inductive ErrorCode
  | libraryNotAvailable
  | adapterCreationFailed
  | adapterNotFound
  | adapterInvalid
  | configurationFailed
  | configurationParseFailed
  | ipConfigurationFailed
  | adapterStateFailed
  | invalidArgument
  | notImplemented
  | unknownError
deriving DecidableEq

def ErrorCode.name : ErrorCode → String
  | libraryNotAvailable => "WIREGUARD_LIBRARY_NOT_AVAILABLE"
  | adapterCreationFailed => "ADAPTER_CREATION_FAILED"
  | adapterNotFound => "ADAPTER_NOT_FOUND"
  | adapterInvalid => "ADAPTER_INVALID"
  | configurationFailed => "CONFIGURATION_FAILED"
  | configurationParseFailed => "CONFIGURATION_PARSE_FAILED"
  | ipConfigurationFailed => "IP_CONFIGURATION_FAILED"
  | adapterStateFailed => "ADAPTER_STATE_FAILED"
  | invalidArgument => "INVALID_ARGUMENT"
  | notImplemented => "NOT_IMPLEMENTED"
  | unknownError => "UNKNOWN_ERROR"

/-- A failed call. -/
structure Failure where
  code : ErrorCode
  message : String
deriving DecidableEq

namespace Failure

/-- The code and the message as one text. -/
def describe (failure : Failure) : String :=
  failure.code.name ++ ": " ++ failure.message

/-- What was being done, followed by the error that stopped it. -/
def causedBy (code : ErrorCode) (what : String) (error : Error) : Failure :=
  { code, message := what ++ ": " ++ error.message }

end Failure

/-- What the host can ask for. -/
inductive Method
  | generateKeyPair
  | checkTunnelConfiguration
  | nativeInit
  | setupTunnel
  | connect
  | disconnect
  | status
deriving DecidableEq

namespace Method

def name : Method → String
  | generateKeyPair => "generateKeyPair"
  | checkTunnelConfiguration => "checkTunnelConfiguration"
  | nativeInit => "nativeInit"
  | setupTunnel => "setupTunnel"
  | connect => "connect"
  | disconnect => "disconnect"
  | status => "status"

/-- The method of a name. -/
def ofName (text : String) : Except Failure Method :=
  match text with
  | "generateKeyPair" => .ok generateKeyPair
  | "checkTunnelConfiguration" => .ok checkTunnelConfiguration
  | "nativeInit" => .ok nativeInit
  | "setupTunnel" => .ok setupTunnel
  | "connect" => .ok connect
  | "disconnect" => .ok disconnect
  | "status" => .ok status
  | other =>
      .error
        { code := .notImplemented
          message := s!"method '{other}' is not implemented" }

/-- A method is found by its own name. -/
theorem ofName_name (method : Method) :
    ofName method.name = .ok method := by
  cases method <;> rfl

end Method

/-! ## Arguments and replies -/

/-- The value of an argument, as far as a method can use it. -/
inductive Argument
  | text (value : String)
  | other
deriving DecidableEq

/-- Arguments by name. -/
abbrev Arguments := List (String × Argument)

/-- The argument that names the adapter. -/
def adapterArgument : String := "win32ServiceName"

/-- The argument that carries the configuration document. -/
def documentArgument : String := "cfg"

/-- A text that a method cannot do without. -/
def required (arguments : Arguments) (name : String) :
    Except Failure String :=
  match arguments.find? (·.1 = name) with
  | some (_, .text value) => .ok value
  | _ =>
      .error
        { code := .invalidArgument
          message := s!"Argument '{name}' is required" }

end Tunnel.Service
