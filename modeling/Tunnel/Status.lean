import Tunnel.Error.Basic

/-!
# Interfaces and their status

An interface is known by the number the driver reports for its adapter.  Its
operational status, one of seven, is reported to the host as one of five
connection statuses.
-/

namespace Tunnel

/-- The number that identifies an adapter's interface. -/
structure InterfaceId where
  raw : UInt64
deriving DecidableEq

namespace InterfaceId

/-- The identifier of a kernel interface index. -/
def ofIndex (index : UInt32) : InterfaceId :=
  ⟨index.toUInt64⟩

/-- The kernel interface index, when the number is one: not zero, 32 bits. -/
def index? (interface : InterfaceId) : Option UInt32 :=
  if 0 < interface.raw.toNat ∧ interface.raw.toNat < UInt32.size then
    some (UInt32.ofNat interface.raw.toNat)
  else none

instance : ToString InterfaceId where
  toString interface := toString interface.raw.toNat

/-- An identifier that has an index is rebuilt from it. -/
theorem ofIndex_of_index? {interface : InterfaceId} {index : UInt32}
    (found : interface.index? = some index) :
    ofIndex index = interface := by
  unfold index? at found
  split at found
  · next inside =>
      cases found
      unfold ofIndex
      congr 1
      apply UInt64.toNat_inj.mp
      simp only [UInt32.toNat_toUInt64, UInt32.toNat_ofNat']
      exact Nat.mod_eq_of_lt inside.2
  · cases found

end InterfaceId

/-- The operational status of an interface. -/
inductive OperStatus
  | unknown
  | notPresent
  | down
  | lowerLayerDown
  | testing
  | dormant
  | up
deriving DecidableEq

/-- The status of a number that the kernel reports. -/
def OperStatus.ofKernel (value : UInt8) : OperStatus :=
  match value.toNat with
  | 1 => .notPresent
  | 2 => .down
  | 3 => .lowerLayerDown
  | 4 => .testing
  | 5 => .dormant
  | 6 => .up
  | _ => .unknown

/-- The kernel counts the statuses from zero on, in the order of the type. -/
theorem OperStatus.ofKernel_eq (value : UInt8) :
    ofKernel value =
      ([.unknown, .notPresent, .down, .lowerLayerDown, .testing, .dormant,
        .up] : List OperStatus)[value.toNat]?.getD .unknown := by
  unfold ofKernel
  generalize value.toNat = number
  match number with
  | 0 | 1 | 2 | 3 | 4 | 5 | 6 | _ + 7 => rfl

/-- The status of a tunnel as the host sees it. -/
inductive ConnectionStatus
  | connected
  | disconnected
  | connecting
  | disconnecting
  | unknown
deriving DecidableEq

namespace ConnectionStatus

def name : ConnectionStatus → String
  | connected => "connected"
  | disconnected => "disconnected"
  | connecting => "connecting"
  | disconnecting => "disconnecting"
  | unknown => "unknown"

instance : ToString ConnectionStatus where
  toString := name

/-- The status of a name. -/
def ofName (text : String) : Except Error ConnectionStatus :=
  match text with
  | "connected" => .ok connected
  | "disconnected" => .ok disconnected
  | "connecting" => .ok connecting
  | "disconnecting" => .ok disconnecting
  | "unknown" => .ok unknown
  | other =>
      .error (.invalidMessage s!"unknown connection status '{other}'")

end ConnectionStatus

/-- What the host sees of an operational status. -/
def OperStatus.connection : OperStatus → ConnectionStatus
  | .up => .connected
  | .down | .dormant | .notPresent | .lowerLayerDown => .disconnected
  | .unknown | .testing => .unknown

/-- The host sees a tunnel as connected for one number of the kernel only. -/
theorem OperStatus.connection_ofKernel (value : UInt8) :
    (ofKernel value).connection =
      if value = 6 then .connected
      else if value ∈ [1, 2, 3, 5] then .disconnected
      else .unknown := by
  simp only [ofKernel_eq, List.mem_cons, ← UInt8.toNat_inj]
  generalize value.toNat = number
  match number with
  | 0 | 1 | 2 | 3 | 4 | 5 | 6 => rfl
  | _ + 7 => simp [connection]

/-- A status that is pushed to the host. -/
structure StatusEvent where
  status : ConnectionStatus
  interface : InterfaceId
deriving DecidableEq

/-- The text of an event: an object with a status and a number. -/
def StatusEvent.toJson (event : StatusEvent) : String :=
  "\x7b\"status\":\"" ++ event.status.name ++ "\",\"luid\":" ++
    toString event.interface ++ "\x7d"

end Tunnel
