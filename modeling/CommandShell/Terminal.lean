import CommandShell.Session.Evaluate

/-!
# Text on a terminal

Whatever is presented becomes a sequence of colored lines.  On a terminal with
colors a line is set between the escape sequence that selects its color and the
one that resets it; otherwise only its text is written.
-/

namespace CommandShell
namespace Terminal

/-- A line of text in a color. -/
structure Line where
  text : String
  color : Color
  deriving DecidableEq, Repr, Inhabited

mutual

/-- The lines that show a value: one for every text, integer and image in it,
from left to right. -/
def valueLines : Value → List Line
  | .none => []
  | .text content color => [⟨content, color⟩]
  | .integer number => [⟨Text.showInteger number, .integer⟩]
  | .image picture => [⟨(Value.image picture).display, .image⟩]
  | .list items => itemsLines items

def itemsLines : List Value → List Line
  | [] => []
  | value :: rest => valueLines value ++ itemsLines rest

end

/-- The line before an error that a module is to blame for. -/
def internalFaultPrefix : String := "A module returned an error:"

def lines : Presentation → List Line
  | .echo line => [⟨"> " ++ line, .gray⟩]
  | .value value => valueLines value
  | .report error =>
      let heading :=
        match error.fault with
        | .internal => [⟨internalFaultPrefix, .red⟩]
        | .user => []
      heading ++ [⟨error.message, .red⟩]

/-- The parameters of the escape sequence that selects a color. -/
def selection : Color → Option String
  | .plain => none
  | .yellow => some "33"
  | .aqua => some "38;2;0;255;255"
  | .gold => some "38;2;255;215;0"
  | .green => some "32"
  | .red => some "31"
  | .magenta => some "35"
  | .cyan => some "36"
  | .gray => some "38;5;244"
  | .rgb red green blue =>
      some s!"38;2;{red.toNat};{green.toNat};{blue.toNat}"

/-- A text between the escape sequences for its color. -/
def paint (text : String) (color : Color) : String :=
  match selection color with
  | none => text
  | some parameters => s!"\x1b[{parameters}m{text}\x1b[0m"

abbrev Painter := String → Color → String

/-- A line as it is written, with its end. -/
def writeLine (colored : Bool) (line : Line) (painter : Painter := paint) : String :=
  (if colored then painter line.text line.color else line.text) ++ "\n"

/-- The text that is written for a presentation. -/
def write (colored : Bool) (item : Presentation) (painter : Painter := paint) : String :=
  String.join ((lines item).map fun line => writeLine colored line painter)

end Terminal
end CommandShell
