import CommandShell.Regex.Reader
import CommandShell.Text.Blank
import CommandShell.Unicode.Alphabetic
import CommandShell.Unicode.Category

/-!
# Log filters

A log filter is a list of directives between commas.  A directive selects events
by their target, by a span around them with the values of its fields, and by
their level: `target[span{field=value}]=level`, where each part may be missing.
Only whether a filter is well formed matters here.
-/

namespace CommandShell
namespace LogFilter

/-- Whether a text names a level: by a word in any case or by a number. -/
def isLevel (text : String) : Bool :=
  let digits := match text.toList with
    | '+' :: digits => digits
    | digits => digits
  let number := digits.foldl
    (fun value digit => 10 * value + (digit.toNat - '0'.toNat)) 0
  let isNumber := !digits.isEmpty && digits.all Char.isDigit && number ≤ 5
  isNumber || text.isEmpty ||
    ["error", "warn", "info", "debug", "trace", "off"].contains text.toLower

/-- Whether a text is a number in which an exponent may stand. -/
def isNumber (text : List Char) : Bool :=
  let unsigned := match text with
    | '+' :: rest | '-' :: rest => rest
    | rest => rest
  let (mantissa, exponent) := unsigned.span fun c => c != 'e' && c != 'E'
  let (whole, fraction) := mantissa.span (· != '.')
  let power := match exponent.drop 1 with
    | '+' :: rest | '-' :: rest => rest
    | rest => rest
  let places := fraction.drop 1
  whole.all Char.isDigit && places.all Char.isDigit &&
    !(whole.isEmpty && places.isEmpty) &&
    (exponent.isEmpty || (!power.isEmpty && power.all Char.isDigit))

/-- Whether a text selects a field: it is a name, or a name with a value that is
a truth value, a number or a pattern. -/
def isField (text : List Char) : Bool :=
  match text.dropWhile (· != '=') with
  | [] => !text.isEmpty
  | _ :: rest =>
      let value := rest.takeWhile (· != '=')
      value == "true".toList || value == "false".toList || isNumber value ||
        (Regex.parse (String.ofList value) false).isOk

/-- Where in a directive the reader is.  Fields and levels are known by the
place at which they start. -/
inductive Position where
  | start
  /-- In a level or a target. -/
  | word
  /-- In the name of a span. -/
  | span
  /-- In a field. -/
  | field (first : Nat)
  /-- After the fields. -/
  | fields
  /-- After a span. -/
  | target
  /-- In a level. -/
  | level (first : Nat)
  deriving DecidableEq, Repr

def piece (directive : List Char) (start stop : Nat) : List Char :=
  (directive.take stop).drop start

/-- Read the character at a place of a directive. -/
def Position.next? (directive : List Char) (place : Nat) :
    Position → Char → Option Position
  | .start, '[' => some .span
  | .start, c =>
      if c == '-' || c == ':' || c == '_' || Unicode.isAlphabetic c ||
          Unicode.isNumeric c then some .word
      else none
  | .word, '=' => some (.level (place + 1))
  | .word, '[' => some .span
  | .word, _ => some .word
  | .target, '=' => some (.level (place + 1))
  | .target, _ => none
  | .span, ']' => some .target
  | .span, '\x7b' => some (.field (place + 1))
  | .span, _ => some .span
  | .field first, '\x7d' =>
      if isField (piece directive first place) then some .fields else none
  | .field first, _ => some (.field first)
  | .fields, ']' => some .target
  | .fields, _ => none
  | .level first, _ => some (.level first)

/-- Read the characters of a directive from a place on. -/
def Position.readAll? (directive : List Char) (place : Nat)
    (position : Position) : List Char → Option Position
  | [] => some position
  | c :: rest => do
      let position ← position.next? directive place c
      position.readAll? directive (place + 1) rest

def Position.isEnd (directive : List Char) : Position → Bool
  | .word | .target => true
  | .level first => isLevel (String.ofList (directive.drop first))
  | .start | .span | .field _ | .fields => false

def trim (text : List Char) : List Char :=
  ((text.dropWhile isBlank).reverse.dropWhile isBlank).reverse

/-- Whether a text is a directive.  The reader passes over blanks at both ends
and counts places without them, but it cuts fields and levels out of the text
with its blanks; so blanks are harmless only where neither is given. -/
def isDirective (directive : List Char) : Bool :=
  match Position.start.readAll? directive 0 (trim directive) with
  | some position => position.isEnd directive
  | none => false

def splitCommas : List Char → List (List Char)
  | [] => [[]]
  | ',' :: rest => [] :: splitCommas rest
  | c :: rest =>
      match splitCommas rest with
      | [] => [[c]]
      | part :: parts => (c :: part) :: parts

/-- Whether a text is a log filter.  Empty directives are ignored. -/
def isValid (filter : String) : Bool :=
  (splitCommas filter.toList).all fun part =>
    part.isEmpty || isDirective part

end LogFilter
end CommandShell
