import CommandShell.Regex.CharSet

/-!
# Regular expressions

An expression describes which stretches of a subject it matches.  Whether a
match is greedy or captured plays no part here, since all that is asked is
whether there is one.
-/

namespace CommandShell
namespace Regex

/-- A condition on a position between two characters. -/
inductive Look where
  | textStart
  | textEnd
  | lineStart
  | lineEnd
  /-- Line starts where carriage returns end lines too. -/
  | lineStartReturn
  /-- Line ends where carriage returns end lines too. -/
  | lineEndReturn
  /-- A position where a word begins or ends. -/
  | wordBoundary (ascii : Bool)
  | noWordBoundary (ascii : Bool)
  | wordStart (ascii : Bool)
  | wordEnd (ascii : Bool)
  /-- A position with no word before it. -/
  | wordStartHalf (ascii : Bool)
  /-- A position with no word behind it. -/
  | wordEndHalf (ascii : Bool)
  deriving DecidableEq, Repr, Inhabited

/-- A regular expression. -/
inductive Expression where
  | empty
  | set (set : CharSet)
  | look (look : Look)
  | sequence (first second : Expression)
  | choice (first second : Expression)
  /-- At least `least` times, and at most `most` times if that is given. -/
  | repeated (body : Expression) (least : Nat) (most : Option Nat)
  deriving DecidableEq, Repr, Inhabited

/-- Whether a character belongs to words, in ASCII or in general. -/
def isWord (ascii : Bool) (c : Char) : Bool :=
  if ascii then CharSet.asciiWord.contains c else Unicode.isWordChar c

/-- Whether a condition holds between the character before a position and the
one behind it. -/
def Look.holds (before behind : Option Char) : Look → Bool
  | .textStart => before.isNone
  | .textEnd => behind.isNone
  | .lineStart => before.all (· == '\n')
  | .lineEnd => behind.all (· == '\n')
  | .lineStartReturn =>
      before.all fun c => c == '\n' || (c == '\r' && behind != some '\n')
  | .lineEndReturn =>
      behind.all fun c => c == '\r' || (c == '\n' && before != some '\r')
  | .wordBoundary ascii =>
      before.any (isWord ascii) != behind.any (isWord ascii)
  | .noWordBoundary ascii =>
      before.any (isWord ascii) == behind.any (isWord ascii)
  | .wordStart ascii =>
      !before.any (isWord ascii) && behind.any (isWord ascii)
  | .wordEnd ascii =>
      before.any (isWord ascii) && !behind.any (isWord ascii)
  | .wordStartHalf ascii => !before.any (isWord ascii)
  | .wordEndHalf ascii => !behind.any (isWord ascii)

end Regex
end CommandShell
