import Tunnel.Text.Numeral
import Tunnel.Text.Printable

/-!
# Quoted text

A text between double quotes on one line: the quote, the backslash and the
characters that move the cursor are written with a backslash, and any other
character that cannot be printed by its number.
-/

namespace Tunnel.Text

/-- One character of a quoted text. -/
def quoteChar (character : Char) : List Char :=
  if character = '"' || character = '\\' then ['\\', character]
  else if character = '\n' then ['\\', 'n']
  else if character = '\t' then ['\\', 't']
  else if character = '\r' then ['\\', 'r']
  else if character.toNat = 0 then ['\\', '0']
  else if isPrintable character then [character]
  else ['\\', 'u', '\x7b'] ++ Numeral.render 16 character.toNat ++ ['\x7d']

/-- A text between double quotes. -/
def quote (text : List Char) : List Char :=
  ['"'] ++ text.flatMap quoteChar ++ ['"']

end Tunnel.Text
