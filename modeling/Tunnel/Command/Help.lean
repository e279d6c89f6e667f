import Tunnel.Command.Line

/-!
# Help on the command line

The help texts: one for the whole program and one for each command, help
itself among them.  A help text says what is done, gives the pattern of the
command line, and explains commands, operands and options in aligned columns.
-/

namespace Tunnel.Command

/-- What the program does. -/
def programAbout : String := "WireGuard tunnel configuration utility"

/-- The version of the program. -/
def programVersion : String := "0.3.0"

/-- Explanations in two columns, two blanks apart. -/
def columns (rows : List (String × String)) : List String :=
  let width := (rows.map fun (label, _) => label.length).foldl max 0
  rows.map fun (label, text) => "  " ++ fill width label ++ "  " ++ text
where
  /-- A text filled up with blanks. -/
  fill (width : Nat) (text : String) : String :=
    text ++ String.ofList (List.replicate (width - text.length) ' ')

/-- A heading and its explanations; without any, there is no heading. -/
def block (heading : String) (rows : List (String × String)) : List String :=
  if rows.isEmpty then [] else ["", heading ++ ":"] ++ columns rows

namespace Switch

/-- How an option is written. -/
def label (switch : Switch) : String :=
  let short := match switch.short? with
    | some letter => s!"-{letter}, "
    | none => "    "
  let name := String.ofList switch.long
  let value :=
    if switch.takesValue then s!" <{name.toUpper}>" else ""
  short ++ "--" ++ name ++ value

def about : Switch → String
  | verbose => "Enable debug logging"
  | help => "Print help"
  | version => "Print version"
  | output => "Write the buffer to this file instead of stdout"
  | hex => "Print as hex"

end Switch

namespace Verb

/-- The operands of a command, as they stand in its pattern. -/
def operandRows (verb : Verb) : List (String × String) :=
  let once := verb.operands.map fun kind =>
    match kind, verb with
    | .file, .decode => ("<FILE>", "Compiled buffer")
    | .file, _ => ("<FILE>", "Tunnel document")
    | .index, _ => ("<IFINDEX>", "Interface index")
  match verb.repeated? with
  | none => once
  | some _ => once ++ [("<IFINDEX>...", "Interface indexes")]

/-- The lines of a command's help. -/
def helpLines (program : String) (verb : Verb) : List String :=
  let operands := verb.operandRows
  let words := [program, verb.name, "[OPTIONS]"] ++ operands.map (·.1)
  [verb.about, "", "Usage: " ++ " ".intercalate words] ++
    block "Arguments" operands ++
    block "Options" (verb.switches.map fun switch =>
      (switch.label, switch.about))

end Verb

/-- What the command that gives help does. -/
def helpAbout : String :=
  "Print this message or the help of the given subcommand(s)"

/-- The lines of the general help. -/
def generalHelpLines (program : String) : List String :=
  let verbs := Verb.all.map fun verb => (verb.name, verb.about)
  [programAbout, "", s!"Usage: {program} [OPTIONS] <COMMAND>"] ++
    block "Commands" (verbs ++ [(String.ofList helpName, helpAbout)]) ++
    block "Options"
      ([Switch.verbose, .help, .version].map fun switch =>
        (switch.label, switch.about))

/-- The lines of the help on help, which has no options. -/
def helpHelpLines (program : String) : List String :=
  let operand := "[COMMAND]..."
  [helpAbout, "", s!"Usage: {program} {String.ofList helpName} {operand}"] ++
    block "Arguments" [(operand, "Print help for the subcommand(s)")]

/-- The help text on a topic. -/
def helpText (program : String) (topic : Topic) : String :=
  let lines := match topic with
    | .program => generalHelpLines program
    | .verb verb => verb.helpLines program
    | .help => helpHelpLines program
  String.join (lines.map (· ++ "\n"))

end Tunnel.Command
