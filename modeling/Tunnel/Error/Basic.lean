import Tunnel.Error.Errno

/-!
# Errors

Everything that can go wrong while a configuration is read, compiled or
applied.  `message` gives the wording, `errno` the number of the system error
behind an error, and three tests sort system errors by what they mean for the
caller.  Context is added to plain system errors only.
-/

namespace Tunnel

/-- Why reading or writing failed. -/
inductive IoFault
  | system (errno : Int)
  | other (message : String)
deriving DecidableEq

/-- The wording of a failed read or write. -/
def IoFault.message : IoFault → String
  | .system errno => Errno.message errno
  | .other message => message

/-- What a count in a binary record counts. -/
inductive Counted
  | peers
  | allowedIps
deriving DecidableEq

def Counted.name : Counted → String
  | .peers => "peers"
  | .allowedIps => "allowed IPs"

/-- What can go wrong. -/
inductive Error
  | io (fault : IoFault)
  | parse (line : Nat) (message : String)
  | key (message : String)
  | bufferTooSmall (required capacity : Nat)
  | sizeMismatch (expected written : Nat)
  | tooMany (what : Counted) (count : Nat)
  | os (errno : Int) (message : String)
  | osWithContext (operation : String) (errno : Int) (message : String)
  | unavailable
  | invalidHandle
  | notBroughtUp (inner : Error)
  | truncated (expected actual : Nat)
  | invalidMessage (message : String)
  | invalidPrefix (message : String)
  | interfaceNotFound (message : String)
deriving DecidableEq

namespace Error

/--
The error of a system call that reported a number, of either sign.  Numbers
have 32 bits; the least of them has no counterpart and keeps its sign.
-/
def ofErrno (number : Int) : Error :=
  let errno := (number.natAbs : Int).bmod 0x100000000
  .os errno (Errno.message errno)

/-- Name the operation that a plain system error stopped. -/
def withContext (operation : String) : Error → Error
  | .os errno message => .osWithContext operation errno message
  | other => other

/-- The wording of an error. -/
def message : Error → String
  | .io fault => "I/O error: " ++ fault.message
  | .parse line message => s!"line {line}: {message}"
  | .key message => "invalid key: " ++ message
  | .bufferTooSmall required capacity =>
      s!"buffer too small: {required} bytes required, {capacity} available"
  | .sizeMismatch expected written =>
      s!"size mismatch: computed {expected} bytes, wrote {written}"
  | .tooMany what count => s!"too many {what.name}: {count}"
  | .os errno message => s!"OS error: {message} (code {errno})"
  | .osWithContext operation errno message =>
      s!"{operation}: {message} (code {errno})"
  | .unavailable => "tunnel driver is not available"
  | .invalidHandle => "adapter handle is not valid"
  | .notBroughtUp inner =>
      "configuration applied but adapter not brought up: " ++ inner.message
  | .truncated expected actual =>
      s!"message truncated: expected {expected} bytes, got {actual}"
  | .invalidMessage message => "invalid message: " ++ message
  | .invalidPrefix message => "invalid prefix: " ++ message
  | .interfaceNotFound message => "interface not found: " ++ message

instance : Inhabited Error := ⟨unavailable⟩

instance : ToString Error where
  toString := message

/-- The number of the system error behind an error. -/
def errno : Error → Option Int
  | .os number _ | .osWithContext _ number _ => some number
  | .io (.system number) => some number
  | .notBroughtUp inner => inner.errno
  | _ => none

/-- The number of a failed system call, not that of a failed read or write. -/
def systemNumber : Error → Option Int
  | .os number _ | .osWithContext _ number _ => some number
  | _ => none

/-- The thing asked for is not there. -/
def isNotFound : Error → Bool
  | .interfaceNotFound _ => true
  | error =>
      error.systemNumber.any fun number =>
        [Errno.noEntry, Errno.noProcess, Errno.noDevice,
          Errno.addressNotAvailable].contains number

/-- The thing to be added is there already. -/
def isAlreadyExists (error : Error) : Bool :=
  error.systemNumber = some Errno.entryExists

/-- The caller may not do this. -/
def isPermissionDenied (error : Error) : Bool :=
  error.systemNumber.any fun number =>
    [Errno.notPermitted, Errno.accessDenied].contains number

/-- The sign that a number is reported with makes no difference. -/
theorem ofErrno_neg (number : Int) : ofErrno (-number) = ofErrno number := by
  unfold ofErrno
  rw [Int.natAbs_neg]

/-- All numbers of 32 bits but the least lose their sign. -/
theorem ofErrno_eq {number : Int} (low : -0x80000000 < number)
    (high : number < 0x80000000) :
    ofErrno number = .os number.natAbs (Errno.message number.natAbs) := by
  have fits : (number.natAbs : Int).bmod 0x100000000 = number.natAbs :=
    Int.bmod_eq_of_le_mul_two (by omega) (by omega)
  unfold ofErrno
  rw [fits]

example : (ofErrno (-0x80000000)).errno = some (-0x80000000) := by decide

@[simp]
theorem systemNumber_withContext (operation : String) (error : Error) :
    (error.withContext operation).systemNumber = error.systemNumber := by
  cases error <;> rfl

@[simp]
theorem errno_withContext (operation : String) (error : Error) :
    (error.withContext operation).errno = error.errno := by
  cases error <;> rfl

end Error

end Tunnel
