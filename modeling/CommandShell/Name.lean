import CommandShell.Text.Blank

/-!
# Names

Modules, commands and macros have names that can be typed as they are: not
empty, and without blanks, quotes, escapes and special characters.
-/

namespace CommandShell

/-- The characters other than blanks that mean something in a line. -/
def reservedChars : List Char := ['"', ',', '=', '.', '^', ';', '\\', '-']

def isNameChar (c : Char) : Bool :=
  !isBlank c && !reservedChars.contains c

/-- Whether a text can be the name of a module, a command or a macro. -/
def isValidName (name : String) : Bool :=
  !name.isEmpty && name.toList.all isNameChar

end CommandShell
