import Tunnel.Adapter.Driver
import Tunnel.Config.Parser
import Tunnel.Image.Decode
import Tunnel.Text.Quoted

/-!
# Adapters

An adapter owns one handle of its driver and releases it once: after that
every operation fails without a call of the driver.  Applying a document
parses and compiles it first, so that a document that cannot be read never
reaches the driver; the adapter remembers the configuration that the driver
took last.
-/

namespace Tunnel

/-- An adapter and the configuration that was applied to it last. -/
structure Adapter where
  name : String
  handle : Option Handle
  applied : Option Config := none

namespace Adapter

variable {m : Type → Type} [Monad m]

/-- The adapter of a handle that a driver gave. -/
def ofHandle (name : String) (handle : Handle) : Adapter :=
  { name, handle := some handle }

/-- The handle has not been released. -/
def isValid (adapter : Adapter) : Bool :=
  adapter.handle.isSome

/-- The developer's view of an adapter. -/
def describe (adapter : Adapter) : String :=
  "Adapter \x7b name: " ++
    String.ofList (Text.quote adapter.name.toList) ++
    ", valid: " ++ toString adapter.isValid ++ " \x7d"

/-- Create an adapter. -/
def create (driver : Driver m) (name tunnelType : String) :
    m (Except Error Adapter) := do
  match ← driver.create name tunnelType with
  | .ok handle => return .ok (ofHandle name handle)
  | .error error =>
      return .error (error.withContext s!"creating adapter {name}")

/-- Open an adapter that exists. -/
def openExisting (driver : Driver m) (name : String) :
    m (Except Error Adapter) := do
  match ← driver.openExisting name with
  | .ok handle => return .ok (ofHandle name handle)
  | .error error =>
      return .error (error.withContext s!"opening adapter {name}")

/-- Do something with the handle, if it has not been released. -/
def withHandle {α : Type} (adapter : Adapter)
    (action : Handle → m (Except Error α)) : m (Except Error α) :=
  match adapter.handle with
  | some handle => action handle
  | none => return .error .invalidHandle

def setState (driver : Driver m) (adapter : Adapter)
    (state : AdapterState) : m (Except Error Unit) :=
  adapter.withHandle fun handle => driver.setState handle state

def state (driver : Driver m) (adapter : Adapter) :
    m (Except Error AdapterState) :=
  adapter.withHandle driver.state

/-- Hand an image to the driver. -/
def setConfiguration (driver : Driver m) (adapter : Adapter)
    (image : List UInt8) : m (Except Error Unit) :=
  adapter.withHandle fun handle => driver.setConfiguration handle image

/-- The interface of the adapter. -/
def identifier (driver : Driver m) (adapter : Adapter) :
    m (Except Error InterfaceId) :=
  adapter.withHandle driver.identifier

def setLogging (driver : Driver m) (adapter : Adapter) (state : LogState) :
    m (Except Error Unit) :=
  adapter.withHandle fun handle => driver.setLogging handle state

/-! ## Reading back -/

/-- The size of the first buffer that the driver is given. -/
def firstBufferSize : Nat := 4096

/-- How often a growing configuration is asked for. -/
def readLimit : Nat := 4

/-- A buffer whose first octets were replaced by what the driver wrote. -/
def overwrite (written buffer : List UInt8) : List UInt8 :=
  written.take buffer.length ++ buffer.drop written.length

@[simp]
theorem length_overwrite (written buffer : List UInt8) :
    (overwrite written buffer).length = buffer.length := by
  simp only [overwrite, List.length_append, List.length_take,
    List.length_drop]
  omega

/--
Read the driver's image into a buffer, and again into a larger one while the
driver asks for more and the limit allows it.  There is memory for any buffer
here; a program ends when its driver asks for more octets than it can have,
which are `2 ^ 63 - 1` at most.
-/
def readBack (driver : Driver m) (handle : Handle) :
    (limit : Nat) → List UInt8 → m (Except Error Image.Decoded)
  | 0, buffer =>
      return .error (.bufferTooSmall (buffer.length + 1) buffer.length)
  | limit + 1, buffer => do
      let (answer, written) ← driver.configuration handle buffer
      let buffer := overwrite written buffer
      match answer with
      | .ok count => return Image.decode (buffer.take count)
      | .error (.bufferTooSmall required capacity) =>
          if buffer.length < required then
            readBack driver handle limit
              (buffer ++ List.replicate (required - buffer.length) 0)
          else return .error (.bufferTooSmall required capacity)
      | .error error => return .error error

/-- The configuration that the driver holds, with its counters. -/
def configuration (driver : Driver m) (adapter : Adapter) :
    m (Except Error Image.Decoded) :=
  adapter.withHandle fun handle =>
    readBack driver handle readLimit (List.replicate firstBufferSize 0)

/-! ## Applying a document -/

/-- A document's configuration and its image. -/
def prepare (text : String) : Except Error (Config × List UInt8) := do
  let config ← Config.parse text
  let image ← Image.compile config
  return (config, image)

/--
Apply a document and bring the adapter up.  The configuration is remembered
once the driver has taken it, also when the adapter then does not come up; any
other failure on an adapter that is not closed forgets what was remembered.
-/
def apply (driver : Driver m) (adapter : Adapter) (text : String) :
    m (Except Error Config × Adapter) := do
  match adapter.handle with
  | none => return (.error .invalidHandle, adapter)
  | some handle =>
      match prepare text with
      | .error error => return (.error error, { adapter with applied := none })
      | .ok (config, image) =>
          match ← driver.setConfiguration handle image with
          | .error error =>
              let context := s!"configuring adapter {adapter.name}"
              return (.error (error.withContext context),
                { adapter with applied := none })
          | .ok () =>
              let adapter := { adapter with applied := some config }
              match ← driver.setState handle .up with
              | .error error => return (.error (.notBroughtUp error), adapter)
              | .ok () => return (.ok config, adapter)

/-- Release the handle, unless that has been done. -/
def close (driver : Driver m) (adapter : Adapter) : m Adapter := do
  match adapter.handle with
  | none => return adapter
  | some handle =>
      driver.close handle
      return { adapter with handle := none, applied := none }

end Adapter

end Tunnel
