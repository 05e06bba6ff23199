import CommandShell.Regex.Expression

/-!
# The syntax of regular expressions: flags, blanks and causes of errors

Flags change how the rest of a group is read.  In verbose mode, blanks and
comments between the parts of a pattern do not count.
-/

namespace CommandShell
namespace Regex

/-- Why a pattern is not a regular expression. -/
inductive SyntaxError where
  | classEscapeInvalid
  | classRangeInvalid
  | classRangeLiteral
  | classUnclosed
  | decimalEmpty
  | decimalInvalid
  | escapeHexEmpty
  | escapeHexInvalid
  | escapeHexInvalidDigit
  | escapeUnexpectedEnd
  | escapeUnrecognized
  | flagDanglingNegation
  | flagDuplicate
  | flagRepeatedNegation
  | flagUnexpectedEnd
  | flagUnrecognized
  | groupNameDuplicate
  | groupNameEmpty
  | groupNameInvalid
  | groupNameUnexpectedEnd
  | groupUnclosed
  | groupUnopened
  | nestLimitExceeded
  | repetitionCountInvalid
  | repetitionCountUnclosed
  | repetitionMissing
  | wordBoundaryUnclosed
  | wordBoundaryUnrecognized
  | backreference
  | lookAround
  | propertyInvalid
  | propertyNotFound
  | unicodeNotAllowed
  | invalidEncoding
  /-- The pattern is well formed but too large. -/
  | tooLarge
  deriving DecidableEq, Repr, Inhabited

def SyntaxError.explanation : SyntaxError → String
  | .classEscapeInvalid => "invalid escape sequence found in character class"
  | .classRangeInvalid =>
      "invalid character class range, the start must be <= the end"
  | .classRangeLiteral =>
      "invalid range boundary, must be a literal"
  | .classUnclosed => "unclosed character class"
  | .decimalEmpty => "repetition quantifier expects a valid decimal"
  | .decimalInvalid => "decimal literal invalid"
  | .escapeHexEmpty => "hexadecimal literal empty"
  | .escapeHexInvalid =>
      "hexadecimal literal is not a Unicode scalar value"
  | .escapeHexInvalidDigit => "invalid hexadecimal digit"
  | .escapeUnexpectedEnd =>
      "incomplete escape sequence, reached end of pattern prematurely"
  | .escapeUnrecognized => "unrecognized escape sequence"
  | .flagDanglingNegation => "dangling flag negation operator"
  | .flagDuplicate => "duplicate flag"
  | .flagRepeatedNegation => "flag negation operator repeated"
  | .flagUnexpectedEnd => "expected flag but got end of regex"
  | .flagUnrecognized => "unrecognized flag"
  | .groupNameDuplicate => "duplicate capture group name"
  | .groupNameEmpty => "empty capture group name"
  | .groupNameInvalid => "invalid capture group character"
  | .groupNameUnexpectedEnd => "unclosed capture group name"
  | .groupUnclosed => "unclosed group"
  | .groupUnopened => "unopened group"
  | .nestLimitExceeded =>
      "exceed the maximum number of nested parentheses/brackets (250)"
  | .repetitionCountInvalid =>
      "invalid repetition count range, the start must be <= the end"
  | .repetitionCountUnclosed => "unclosed counted repetition"
  | .repetitionMissing => "repetition operator missing expression"
  | .wordBoundaryUnclosed => "special word boundary assertion is unclosed"
  | .wordBoundaryUnrecognized =>
      "unrecognized special word boundary assertion"
  | .backreference => "backreferences are not supported"
  | .lookAround =>
      "look-around, including look-ahead and look-behind, is not supported"
  | .propertyInvalid => "invalid Unicode character class"
  | .propertyNotFound => "Unicode property not found"
  | .unicodeNotAllowed => "Unicode not allowed here"
  | .invalidEncoding => "pattern can match invalid UTF-8"
  | .tooLarge => "too large"

/-- The largest size that a pattern may have once it is prepared, in bytes. -/
def sizeLimit : Nat := 10 * 0x100000

/-- The message about a pattern that cannot be used. -/
def SyntaxError.message (pattern : String) : SyntaxError → String
  | .tooLarge => s!"Compiled regex exceeds size limit of {sizeLimit} bytes."
  | error =>
      s!"regex parse error:\n    {pattern}\nerror: {error.explanation}"

/-- The flags in force at a point of a pattern. -/
structure Flags where
  ignoreCase : Bool := false
  multiLine : Bool := false
  dotMatchesNewline : Bool := false
  returnsEndLines : Bool := false
  unicode : Bool := true
  verbose : Bool := false
  deriving DecidableEq, Repr, Inhabited

/-- The set of a single literal character under the flags in force. -/
def Flags.literal (flags : Flags) (c : Char) : CharSet :=
  if flags.ignoreCase then
    if flags.unicode then .folded (.single c)
    else if c.toNat < 128 then .foldedAscii (.single c)
    else .single c
  else .single c

/-- Skip blanks and comments. -/
def skipVerbose (inComment : Bool) : List Char → List Char
  | [] => []
  | c :: rest =>
      if inComment then skipVerbose (c != '\n') rest
      else if isBlank c then skipVerbose false rest
      else if c = '#' then skipVerbose true rest
      else c :: rest

/-- Skip what does not count between the parts of a pattern. -/
def Flags.skip (flags : Flags) (pattern : List Char) : List Char :=
  if flags.verbose then skipVerbose false pattern else pattern

/-- Read a decimal number, which may stand between blanks. -/
def readDecimal (flags : Flags) (pattern : List Char) :
    Except SyntaxError (Nat × List Char) := do
  let (digits, rest) := digitsFrom (pattern.dropWhile isBlank)
  let value := digits.foldl (fun value digit =>
    10 * value + (digit.toNat - '0'.toNat)) 0
  if digits.isEmpty then .error .decimalEmpty
  else if 0x100000000 ≤ value then .error .decimalInvalid
  else .ok (value, rest.dropWhile isBlank)
where
  /-- Split off digits, with whatever may be skipped between them. -/
  digitsFrom : List Char → List Char × List Char
    | [] => ([], [])
    | c :: rest =>
        if c.isDigit then
          let (digits, rest) := digitsFrom rest
          (c :: digits, rest)
        else if flags.verbose && isBlank c then digitsFrom rest
        else ([], c :: rest)

end Regex
end CommandShell
