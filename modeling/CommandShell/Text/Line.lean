import CommandShell.Text.Blank

/-!
# Lines and words of a text

A line ends with a line feed, and a carriage return right before that line
feed belongs to the line end.  A text that ends with a line feed has no further
empty line after it.  Words are the maximal runs of characters that are not
blank.
-/

namespace CommandShell
namespace Text

def dropReturn (line : List Char) : List Char :=
  match line.getLast? with
  | some '\r' => line.dropLast
  | _ => line

/-- The lines of a text whose first line already begins with `line`. -/
def linesFrom (line : List Char) : List Char → List (List Char)
  | [] => if line.isEmpty then [] else [line]
  | '\n' :: rest => dropReturn line :: linesFrom [] rest
  | c :: rest => linesFrom (line ++ [c]) rest

/-- The lines of a text, without their line ends. -/
def lines (text : String) : List String :=
  (linesFrom [] text.toList).map String.ofList

/-- The number of words that begin in a text, given whether the text continues
a word that has begun before. -/
def countWords (inWord : Bool) : List Char → Nat
  | [] => 0
  | c :: rest =>
      if isBlank c then countWords false rest
      else if inWord then countWords true rest
      else countWords true rest + 1

def wordCount (text : String) : Nat := countWords false text.toList

end Text
end CommandShell
