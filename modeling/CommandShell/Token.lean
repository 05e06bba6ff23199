/-!
# Tokens

A line is a sequence of words and special characters.  Quotes and escapes are
resolved in a word, so it may hold any characters at all.
-/

namespace CommandShell

/-- A piece of a line. -/
inductive Token where
  /-- Contiguous text, with quotes and escapes resolved. -/
  | word (text : String)
  /-- The separator of list elements, `,`. -/
  | separator
  /-- The sign between an argument and its value, `=`. -/
  | assign
  /-- The sign before a flag or a negative number, `-`. -/
  | flagMarker
  /-- The sign between a module and its command, `.`. -/
  | moduleDelimiter
  /-- The sign for the previous output, `^`. -/
  | previousOutput
  /-- The sign around the name of a macro, `;`. -/
  | macroMarker
  deriving DecidableEq, Repr, Inhabited

namespace Token

/-- The token that a special character stands for. -/
def special? : Char → Option Token
  | ',' => some .separator
  | '=' => some .assign
  | '-' => some .flagMarker
  | '.' => some .moduleDelimiter
  | '^' => some .previousOutput
  | ';' => some .macroMarker
  | _ => none

def text : Token → String
  | .word text => text
  | .separator => ","
  | .assign => "="
  | .flagMarker => "-"
  | .moduleDelimiter => "."
  | .previousOutput => "^"
  | .macroMarker => ";"

def isWord : Token → Bool
  | .word _ => true
  | _ => false

end Token

end CommandShell
