import CommandShell.Regex.Reader

/-!
# Engines

Which patterns there are and which lines contain a match is up to an engine.  The standard
engine has the reader and the matcher of this library.
-/

namespace CommandShell
namespace Regex

/-- Why an engine does not take a pattern, with the text about it: the pattern is malformed, or it
exceeds a limit. -/
inductive Refusal where
  | malformed (text : String)
  | tooLarge (text : String)
  deriving DecidableEq, Repr, Inhabited

def Refusal.text : Refusal → String
  | .malformed text | .tooLarge text => text

/-- How patterns are turned into expressions, with or without regard to case, and whether a line
contains a match of an expression. -/
structure Engine where
  Expression : Type
  build : String → Bool → Except Refusal Expression
  isMatch : Expression → String → Bool

/-- Whether an error is about a limit and not about the form of a pattern. -/
def SyntaxError.isLimit : SyntaxError → Bool
  | .nestLimitExceeded | .tooLarge => true
  | _ => false

def SyntaxError.refusal (pattern : String) (error : SyntaxError) : Refusal :=
  if error.isLimit then .tooLarge (error.message pattern)
  else .malformed (error.message pattern)

/-- The engine of this library. -/
def Engine.standard : Engine where
  Expression := Regex.Expression
  build pattern ignoreCase := (parse pattern ignoreCase).mapError (·.refusal pattern)
  isMatch := Expression.matchesIn

end Regex
end CommandShell
