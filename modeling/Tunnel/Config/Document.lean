import Tunnel.Text.Basic

/-!
# Lines of a configuration document

A document is read line by line, without the blanks around a line.  A line is
a header, such as `[Peer]`, an entry, such as `ListenPort = 51820`, or has no
meaning: an empty line, a comment after `#` or `;`, or a line that is no
header and has no equals sign.
-/

namespace Tunnel.Config

/-- What one line of a document says. -/
inductive Line
  | skipped
  | header (name : List Char)
  | entry (key value : List Char)
deriving DecidableEq

namespace Line

/-- The name between the brackets of a header. -/
def headerName? : List Char → Option (List Char)
  | '[' :: rest =>
      if rest.getLast? = some ']' then some rest.dropLast else none
  | _ => none

/-- A line that is empty or a comment. -/
def isRemark (text : List Char) : Bool :=
  match text with
  | [] => true
  | first :: _ => first = '#' || first = ';'

/-- What a line says that has no blanks around it. -/
def ofTrimmed (text : List Char) : Line :=
  if isRemark text then .skipped
  else
    match headerName? text with
    | some name => .header name
    | none =>
        match Text.splitOnce? '=' text with
        | some (key, value) => .entry (Text.trim key) (Text.trim value)
        | none => .skipped

/-- What a line says. -/
def ofText (text : List Char) : Line :=
  ofTrimmed (Text.trim text)

end Line

/-- The lines of a document, in order. -/
def documentLines (text : List Char) : List Line :=
  (Text.lines text).map Line.ofText

end Tunnel.Config
