import Tunnel.Status

/-!
# Tunnel drivers

The library works with a tunnel driver only through the operations below.
Each may have effects and may fail; the monad says how, so that a driver may
be a state that answers, or a device.
-/

namespace Tunnel

/-- The tunnel type of adapters that the service creates. -/
def defaultTunnelType : String := "WireGuard"

/-- Whether an adapter is administratively up. -/
inductive AdapterState
  | down
  | up
deriving DecidableEq

/-- What a driver logs for an adapter. -/
inductive LogState
  | off
  | on
  | onWithPrefix
deriving DecidableEq

/-- What a driver gives for an adapter that was opened or created. -/
structure Handle where
  number : Nat
deriving DecidableEq

/-- The operations of a tunnel driver. -/
structure Driver (m : Type → Type) where
  /-- Create an adapter of a name and a tunnel type. -/
  create : String → String → m (Except Error Handle)
  /-- Open the adapter of a name. -/
  openExisting : String → m (Except Error Handle)
  /-- Release a handle. -/
  close : Handle → m Unit
  setState : Handle → AdapterState → m (Except Error Unit)
  state : Handle → m (Except Error AdapterState)
  /-- Apply an image. -/
  setConfiguration : Handle → List UInt8 → m (Except Error Unit)
  /--
  Read the current image into a buffer.  The answer is the count of octets
  used, and the octets that the driver wrote from the start of the buffer on.
  -/
  configuration :
    Handle → List UInt8 → m (Except Error Nat × List UInt8)
  /-- The interface of the adapter. -/
  identifier : Handle → m (Except Error InterfaceId)
  setLogging : Handle → LogState → m (Except Error Unit)

/-- A driver whose operations are run in another monad. -/
def Driver.lift {m n : Type → Type} (run : {α : Type} → m α → n α)
    (driver : Driver m) : Driver n where
  create name tunnelType := run (driver.create name tunnelType)
  openExisting name := run (driver.openExisting name)
  close handle := run (driver.close handle)
  setState handle state := run (driver.setState handle state)
  state handle := run (driver.state handle)
  setConfiguration handle image := run (driver.setConfiguration handle image)
  configuration handle buffer := run (driver.configuration handle buffer)
  identifier handle := run (driver.identifier handle)
  setLogging handle state := run (driver.setLogging handle state)

end Tunnel
