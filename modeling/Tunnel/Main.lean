import Tunnel.Command.Run

/-!
# The command line program

The host of a command is the process: its files, its standard streams and the
system's source of random octets.  Routing sockets are not part of it, so
commands on interfaces report that the system lacks the address family.
-/

namespace Tunnel.Program

/-- The number of the system error that stopped an action, if there is one. -/
def systemCode : IO.Error → Option UInt32
  | .alreadyExists _ code _ | .otherError code _ | .resourceBusy code _
  | .resourceVanished code _ | .unsupportedOperation code _
  | .hardwareFault code _ | .unsatisfiedConstraints code _
  | .illegalOperation code _ | .protocolError code _ | .timeExpired code _
  | .interrupted _ code _ | .noFileOrDirectory _ code _
  | .invalidArgument _ code _ | .permissionDenied _ code _
  | .resourceExhausted _ code _ | .inappropriateType _ code _
  | .noSuchThing _ code _ => some code
  | .unexpectedEof | .userError _ => none

/-- The error number of a code, which some actions report negated. -/
def errorNumber (code : UInt32) : Nat :=
  if code.toNat < 0x80000000 then code.toNat
  else UInt32.size - code.toNat

/-- The fault behind an action that failed. -/
def fault (error : IO.Error) : IoFault :=
  match systemCode error with
  | some code => .system (errorNumber code)
  | none => .other (toString error)

/-- The result of an action, or its fault. -/
def guarded {α : Type} (action : IO α) : IO (Except Error α) := do
  try
    let result ← action
    return .ok result
  catch error =>
    return .error (.io (fault error))

/-- The array of some octets. -/
def bytes (octets : List UInt8) : ByteArray :=
  ⟨octets.toArray⟩

/-- Thirty-two octets of the system's randomness. -/
def entropy : IO (Octets 32) := do
  let random ← IO.getRandomBytes 32
  return (Octets.ofList? 32 random.toList).getD (Octets.zero 32)

/-- Everything that is left in a stream, after what has been read. -/
partial def drain (input : IO.FS.Stream) (before : ByteArray) :
    IO ByteArray := do
  let next ← input.read 4096
  if next.isEmpty then return before
  else drain input (before ++ next)

/-- The process as the host of a command. -/
def host : Command.Host IO where
  print octets := do
    let output ← IO.getStdout
    output.write (bytes octets)
    output.flush
  complain text := do
    let output ← IO.getStderr
    output.putStr text
    output.flush
  fetch file :=
    guarded (ByteArray.toList <$> IO.FS.readBinFile file)
  store file octets := guarded (IO.FS.writeBinFile file (bytes octets))
  input := guarded do
    let content ← drain (← IO.getStdin) .empty
    return content.toList
  entropy := entropy
  openTable := return .error (.io (.system Errno.familyNotSupported))
  openMonitor := return .error (.io (.system Errno.familyNotSupported))
  untilInterrupted repeated schedule := repeated schedule

end Tunnel.Program

/-- Run the program on its arguments. -/
def main (arguments : List String) : IO UInt32 := do
  let exit ← Tunnel.Command.run Tunnel.Program.host "tunnel" arguments
  return exit.status
