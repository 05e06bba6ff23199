import CommandShell.Text.Blank
import CommandShell.Unicode.CaseOrbit
import CommandShell.Unicode.CodeRanges
import CommandShell.Unicode.Word

/-!
# Sets of characters in regular expressions

A set is written down as the expression that describes it, and membership is
decided by following the expression.
-/

namespace CommandShell
namespace Regex

/-- The properties that have escapes of their own. -/
inductive CharProperty where
  /-- A decimal digit of any script. -/
  | digit
  /-- A blank. -/
  | blank
  /-- A character of a word. -/
  | word
  deriving DecidableEq, Repr, Inhabited

def CharProperty.holds (c : Char) : CharProperty → Bool
  | .digit => Unicode.isDecimalDigit c
  | .blank => isBlank c
  | .word => Unicode.isWordChar c

/-- A description of a set of characters. -/
inductive CharSet where
  | nothing
  | range (first last : Char)
  | having (property : CharProperty)
  /-- The characters in the ranges of a table. -/
  | table (ranges : Unicode.CodeRanges)
  | union (left right : CharSet)
  | intersection (left right : CharSet)
  | difference (left right : CharSet)
  | symmetricDifference (left right : CharSet)
  | complement (set : CharSet)
  /-- The characters that differ from a member at most in case. -/
  | folded (set : CharSet)
  /-- The same for the letters of ASCII only. -/
  | foldedAscii (set : CharSet)
  deriving DecidableEq, Repr, Inhabited

namespace CharSet

def single (c : Char) : CharSet := .range c c

/-- The characters of ASCII that differ from `c` at most in case. -/
def asciiOrbit (c : Char) : List Char := [c, c.toUpper, c.toLower]

def contains : CharSet → Char → Bool
  | .nothing, _ => false
  | .range first last, c => first ≤ c && c ≤ last
  | .having property, c => property.holds c
  | .table ranges, c => ranges.contains c
  | .union left right, c => left.contains c || right.contains c
  | .intersection left right, c => left.contains c && right.contains c
  | .difference left right, c => left.contains c && !right.contains c
  | .symmetricDifference left right, c => left.contains c != right.contains c
  | .complement set, c => !set.contains c
  | .folded set, c => (Unicode.caseOrbit c).any fun other => set.contains other
  | .foldedAscii set, c => (asciiOrbit c).any fun other => set.contains other

def ofRanges (ranges : List (Char × Char)) : CharSet :=
  ranges.foldr (fun range rest => .union (.range range.1 range.2) rest) .nothing

def all : CharSet := .complement .nothing

/-- Whether a set has members that a single byte above ASCII could stand for. -/
def exceedsAscii (set : CharSet) : Bool :=
  (List.range 128).any fun offset => set.contains (Char.ofNat (128 + offset))

def asciiDigit : CharSet := .range '0' '9'

def asciiBlank : CharSet := ofRanges [('\t', '\r'), (' ', ' ')]

def asciiWord : CharSet :=
  ofRanges [('0', '9'), ('A', 'Z'), ('_', '_'), ('a', 'z')]

/-- The sets that have names inside of brackets. -/
def named? : String → Option CharSet
  | "alnum" => some (ofRanges [('0', '9'), ('A', 'Z'), ('a', 'z')])
  | "alpha" => some (ofRanges [('A', 'Z'), ('a', 'z')])
  | "ascii" => some (.range '\x00' '\x7f')
  | "blank" => some (ofRanges [('\t', '\t'), (' ', ' ')])
  | "cntrl" => some (ofRanges [('\x00', '\x1f'), ('\x7f', '\x7f')])
  | "digit" => some asciiDigit
  | "graph" => some (.range '!' '~')
  | "lower" => some (.range 'a' 'z')
  | "print" => some (.range ' ' '~')
  | "punct" =>
      some (ofRanges [('!', '/'), (':', '@'), ('[', '`'), ('\x7b', '~')])
  | "space" => some asciiBlank
  | "upper" => some (.range 'A' 'Z')
  | "word" => some asciiWord
  | "xdigit" => some (ofRanges [('0', '9'), ('A', 'F'), ('a', 'f')])
  | _ => none

end CharSet

end Regex
end CommandShell
