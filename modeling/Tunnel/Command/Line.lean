import Tunnel.Text.Numeral

/-!
# Command lines

A command line is a command with its options and operands.  Options may stand
anywhere after the command, short ones may be written together, and `--` ends
them.  An option may be given once at each level.  What a command line lacks
or has too much of makes the whole of it refused.
-/

namespace Tunnel.Command

/-! ## Words of a command line -/

/-- An option of a command. -/
inductive Switch
  | verbose
  | help
  | version
  | output
  | hex
deriving DecidableEq

namespace Switch

def short? : Switch → Option Char
  | verbose => some 'v'
  | help => some 'h'
  | version => some 'V'
  | output => some 'o'
  | hex => none

def long : Switch → List Char
  | verbose => "verbose".toList
  | help => "help".toList
  | version => "version".toList
  | output => "output".toList
  | hex => "hex".toList

def takesValue : Switch → Bool
  | output => true
  | _ => false

end Switch

/-- What a word of a command line turns out to be. -/
inductive Word
  | switch (switch : Switch)
  | valued (switch : Switch) (value : List Char)
  | operand (text : List Char)
  | refused
deriving DecidableEq

/-- A word that cannot be a value of its own accord. -/
def looksLikeSwitch : List Char → Bool
  | '-' :: _ :: _ => true
  | _ => false

/-- The value of an option from the next word, and the words after it. -/
def valueFrom (switch : Switch) :
    List (List Char) → Word × List (List Char)
  | [] => (.refused, [])
  | next :: rest =>
      if looksLikeSwitch next then (.refused, rest)
      else (.valued switch next, rest)

/-- The words that letters after one dash stand for. -/
def shortWords (known : List Switch) (rest : List (List Char)) :
    List Char → List Word × List (List Char)
  | [] => ([], rest)
  | letter :: letters =>
      match known.find? (·.short? = some letter) with
      | none => ([.refused], rest)
      | some switch =>
          if switch.takesValue then
            match letters with
            | [] =>
                let (word, rest) := valueFrom switch rest
                ([word], rest)
            | '=' :: value => ([.valued switch value], rest)
            | value => ([.valued switch value], rest)
          else
            let (words, rest) := shortWords known rest letters
            (.switch switch :: words, rest)

/-- The word that a name after two dashes stands for. -/
def longWord (known : List Switch) (rest : List (List Char))
    (text : List Char) : Word × List (List Char) :=
  let name := text.takeWhile (· ≠ '=')
  let attached := (text.dropWhile (· ≠ '=')).tail?
  match known.find? (·.long = name) with
  | none => (.refused, rest)
  | some switch =>
      match switch.takesValue, attached with
      | true, some value => (.valued switch value, rest)
      | true, none => valueFrom switch rest
      | false, some _ => (.refused, rest)
      | false, none => (.switch switch, rest)

/-- The words that come first, and what comes after them. -/
def nextWords (known : List Switch) :
    List (List Char) → List Word × List (List Char)
  | [] => ([], [])
  | ('-' :: '-' :: name) :: rest =>
      if name = [] then (rest.map .operand, [])
      else
        let (word, rest) := longWord known rest name
        ([word], rest)
  | ('-' :: letter :: letters) :: rest =>
      shortWords known rest (letter :: letters)
  | operand :: rest => ([.operand operand], rest)

/-- All words, for a command with some options. -/
def words (known : List Switch) : (count : Nat) → List (List Char) → List Word
  | 0, _ => []
  | _, [] => []
  | count + 1, arguments =>
      let (first, rest) := nextWords known arguments
      first ++ words known count rest

/-! ## Commands -/

/-- What the program can be asked to do. -/
inductive Task
  | check (file : String)
  | compile (file : String) (output : Option String) (hex : Bool)
  | decode (file : String)
  | print (file : String)
  | generateKey
  | publicKey
  | generateShared
  | up (index : UInt32) (file : String)
  | down (index : UInt32)
  | monitor (indexes : List UInt32)
deriving DecidableEq

/-- The commands by their names. -/
inductive Verb
  | check
  | compile
  | decode
  | print
  | generateKey
  | publicKey
  | generateShared
  | up
  | down
  | monitor
deriving DecidableEq

/-- What an operand of a command is. -/
inductive OperandKind
  | file
  | index
deriving DecidableEq

namespace Verb

def all : List Verb :=
  [check, compile, decode, print, generateKey, publicKey, generateShared,
    up, down, monitor]

def name : Verb → String
  | check => "check"
  | compile => "compile"
  | decode => "decode"
  | print => "show"
  | generateKey => "genkey"
  | publicKey => "pubkey"
  | generateShared => "genpsk"
  | up => "up"
  | down => "down"
  | monitor => "monitor"

def about : Verb → String
  | check => "Parse a tunnel document and report what it contains"
  | compile => "Compile a tunnel document into the driver layout"
  | decode => "Decode a compiled buffer back into a tunnel document"
  | print => "Print a tunnel document in canonical form"
  | generateKey => "Generate a new private key"
  | publicKey => "Derive public key from private key (reads from stdin)"
  | generateShared => "Generate a preshared key"
  | up => "Add the document's addresses and peer routes to an interface"
  | down => "Remove all addresses and routes from an interface"
  | monitor => "Print status events for interfaces until interrupted"

/-- The options of a command. -/
def switches : Verb → List Switch
  | compile => [.output, .verbose, .hex, .help]
  | _ => [.verbose, .help]

/-- The operands of a command, each given once. -/
def operands : Verb → List OperandKind
  | check | compile | decode | print => [.file]
  | generateKey | publicKey | generateShared => []
  | up => [.index, .file]
  | down => [.index]
  | monitor => []

/-- Operands that come once or more often, after the others. -/
def repeated? : Verb → Option OperandKind
  | monitor => some .index
  | _ => none

end Verb

/-- What help may be asked for. -/
inductive Topic
  | program
  | verb (verb : Verb)
  /-- The command that gives help. -/
  | help
deriving DecidableEq

/-- What a command line asks for. -/
inductive Invocation
  | task (task : Task)
  | help (topic : Topic)
  | version
  | refused
deriving DecidableEq

/-! ## Operands -/

/-- The value of an operand or of an option. -/
inductive Value
  | file (name : String)
  | index (index : UInt32)
deriving DecidableEq

/-- A whole number with a sign, as long as it fits in 32 bits. -/
def index? (text : List Char) : Option UInt32 := do
  let value ← match text with
    | '-' :: digits =>
        ((if digits = [] then none else Numeral.value? 10 digits)).filter
          (· = 0)
    | _ => Numeral.natural? text
  guard (value < UInt32.size)
  return UInt32.ofNat value

/-- The value that a text stands for; a file has a name. -/
def OperandKind.read? : OperandKind → List Char → Option Value
  | .file, text =>
      if text = [] then none else some (.file (String.ofList text))
  | .index, text => (index? text).map .index

/-- What has been found on a command line. -/
structure Found where
  switches : List Switch := []
  output : Option String := none
  values : List Value := []

/-- The kind of the next operand, if there may be one. -/
def nextKind? (verb : Verb) (found : Found) : Option OperandKind :=
  match verb.operands[found.values.length]? with
  | some kind => some kind
  | none => verb.repeated?

/-- Take words in order; help that is asked for ends the reading. -/
def take (verb : Verb) (found : Found) :
    List Word → Except Invocation Found
  | [] => .ok found
  | .refused :: _ => .error .refused
  | .switch switch :: rest =>
      if switch = .help then .error (.help (.verb verb))
      else if found.switches.contains switch then .error .refused
      else take verb { found with switches := switch :: found.switches } rest
  | .valued _ value :: rest =>
      if value = [] ∨ found.output.isSome then .error .refused
      else take verb { found with output := some (String.ofList value) } rest
  | .operand text :: rest =>
      match (nextKind? verb found).bind (·.read? text) with
      | none => .error .refused
      | some value =>
          take verb { found with values := found.values ++ [value] } rest

/-- The indexes among values. -/
def indexes (values : List Value) : List UInt32 :=
  values.filterMap fun value =>
    match value with
    | .index index => some index
    | .file _ => none

/-- The task of a command with what was found, if nothing is missing. -/
def task? (verb : Verb) (found : Found) : Option Task :=
  match verb, found.values with
  | .check, [.file file] => some (.check file)
  | .compile, [.file file] =>
      some (.compile file found.output (found.switches.contains .hex))
  | .decode, [.file file] => some (.decode file)
  | .print, [.file file] => some (.print file)
  | .generateKey, [] => some .generateKey
  | .publicKey, [] => some .publicKey
  | .generateShared, [] => some .generateShared
  | .up, [.index index, .file file] => some (.up index file)
  | .down, [.index index] => some (.down index)
  | .monitor, first :: rest => some (.monitor (indexes (first :: rest)))
  | _, _ => none

/-- Read what comes after the name of a command. -/
def readTask (verb : Verb) (arguments : List (List Char)) : Invocation :=
  match take verb {} (words verb.switches arguments.length arguments) with
  | .error invocation => invocation
  | .ok found =>
      match task? verb found with
      | some task => .task task
      | none => .refused

/-- The command of a name. -/
def verb? (name : List Char) : Option Verb :=
  Verb.all.find? (·.name.toList = name)

/-- The name of the command that gives help. -/
def helpName : List Char := "help".toList

/-- Read what comes after a request for help. -/
def readHelp : List (List Char) → Invocation
  | [] => .help .program
  | [name] =>
      if name = helpName then .help .help
      else ((verb? name).map fun verb => .help (.verb verb)).getD .refused
  | _ => .refused

/-- The options before a command. -/
def generalSwitches : List Switch := [.verbose, .help, .version]

/-- Read words up to the name of a command. -/
def readFrom (seen : List Switch) : (count : Nat) →
    List (List Char) → Invocation
  | 0, _ => .refused
  | _, [] => .refused
  | count + 1, arguments =>
      let (first, rest) := nextWords generalSwitches arguments
      match general seen first with
      | .error invocation => invocation
      | .ok (seen, none) => readFrom seen count rest
      | .ok (_, some name) =>
          if arguments.head? = some ['-', '-'] then .refused
          else if name = helpName then readHelp rest
          else
            match verb? name with
            | some verb => readTask verb rest
            | none => .refused
where
  /-- Take general options, up to the first operand. -/
  general (seen : List Switch) :
      List Word → Except Invocation (List Switch × Option (List Char))
    | [] => .ok (seen, none)
    | .refused :: _ => .error .refused
    | .valued _ _ :: _ => .error .refused
    | .operand name :: _ => .ok (seen, some name)
    | .switch .help :: _ => .error (.help .program)
    | .switch .version :: _ => .error .version
    | .switch switch :: rest =>
        if seen.contains switch then .error .refused
        else general (switch :: seen) rest

/-- What a command line asks for. -/
def read (arguments : List String) : Invocation :=
  readFrom [] arguments.length (arguments.map String.toList)

end Tunnel.Command
