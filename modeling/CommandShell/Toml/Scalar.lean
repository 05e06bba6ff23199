import CommandShell.Toml.Item
import CommandShell.Toml.Quotation

/-!
# Numbers, dates and truth values in TOML

These are words without quotes.  A word is read as a whole, and at most one kind
of value has it as a written form.
-/

namespace CommandShell
namespace Toml

def digit? (base : Nat) (c : Char) : Option Nat := do
  let value ← hexDigit? c
  if value < base then some value else none

/-- The value of digits in which single underscores may stand between two
digits. -/
def digitsAfter (base value : Nat) : List Char → Option Nat
  | [] => some value
  | '_' :: c :: rest => do
      let digit ← digit? base c
      digitsAfter base (base * value + digit) rest
  | c :: rest => do
      let digit ← digit? base c
      digitsAfter base (base * value + digit) rest

def digits? (base : Nat) : List Char → Option Nat
  | [] => none
  | c :: rest => do digitsAfter base (← digit? base c) rest

/-- The value of decimal digits that do not begin with a needless zero. -/
def decimal? : List Char → Option Nat
  | '0' :: _ :: _ => none
  | digits => digits? 10 digits

/-- Split off a sign; the answer says whether it is a minus. -/
def splitSign : List Char → Bool × List Char
  | '-' :: rest => (true, rest)
  | '+' :: rest => (false, rest)
  | rest => (false, rest)

/-- The integers that can be held, whether a setting uses them or not. -/
def holdsInteger (number : Int) : Bool :=
  -(1 <<< 127 : Nat) ≤ number && number < (1 <<< 128 : Nat)

def integer? (word : List Char) : Option Int := do
  let number : Int ← match word with
    | '0' :: 'x' :: digits => (digits? 16 digits).map Int.ofNat
    | '0' :: 'o' :: digits => (digits? 8 digits).map Int.ofNat
    | '0' :: 'b' :: digits => (digits? 2 digits).map Int.ofNat
    | _ =>
        let (negative, digits) := splitSign word
        (decimal? digits).map fun value =>
          if negative then -(value : Int) else value
  if holdsInteger number then some number else none

def exponent? (text : List Char) : Option Int :=
  let (negative, digits) := splitSign text
  (digits? 10 digits).map fun value =>
    if negative then -(value : Int) else value

/-- Whether `digits · 10 ^ exponent` is too large for a binary float of 64 bits,
to which it would be rounded. -/
def overflowsFloat (digits : Nat) (exponent : Int) : Bool :=
  let limit := 1 <<< 1024 - 1 <<< 970
  let size := (Nat.toDigits 10 digits).length + exponent
  if digits = 0 || size < 300 then false
  else if 320 < size then true
  else if 0 ≤ exponent then limit ≤ digits * Nat.pow 10 exponent.toNat
  else limit * Nat.pow 10 (-exponent).toNat ≤ digits

/-- Whether a word is a float: it has a fraction, an exponent or both, or it is
one of the words for what is not a finite number. -/
def isFloat (word : List Char) : Bool :=
  let (_, number) := splitSign word
  if number == "inf".toList || number == "nan".toList then true
  else
    let (mantissa, exponent) := number.span fun c => c != 'e' && c != 'E'
    let (whole, fraction) := mantissa.span (· != '.')
    let fractionDigits := (fraction.drop 1).filter (· != '_')
    let value := do
      let wholeValue ← decimal? whole
      let places ← match fraction with
        | [] => some 0
        | _ :: digits => do
            let _ ← digits? 10 digits
            some fractionDigits.length
      let power ← match exponent with
        | [] => some 0
        | _ :: text => exponent? text
      let digits ← digitsAfter 10 wholeValue fractionDigits
      some (overflowsFloat digits (power - places))
    (!fraction.isEmpty || !exponent.isEmpty) && value == some false

def fixedDigits? (count : Nat) (text : List Char) :
    Option (Nat × List Char) := do
  let digits := text.take count
  if digits.length = count && digits.all Char.isDigit then
    some (digits.foldl (fun value c => 10 * value + (c.toNat - '0'.toNat)) 0,
      text.drop count)
  else none

def daysInMonth (year month : Nat) : Nat :=
  if month = 2 then
    if year % 4 = 0 && (year % 100 != 0 || year % 400 = 0) then 29 else 28
  else if month = 4 || month = 6 || month = 9 || month = 11 then 30
  else 31

def date? (text : List Char) : Option (List Char) := do
  let (year, rest) ← fixedDigits? 4 text
  let '-' :: rest := rest | none
  let (month, rest) ← fixedDigits? 2 rest
  let '-' :: rest := rest | none
  let (day, rest) ← fixedDigits? 2 rest
  if 1 ≤ month && month ≤ 12 && 1 ≤ day && day ≤ daysInMonth year month then
    some rest
  else none

/-- Read a time of day; seconds and their fraction may be left out. -/
def time? (text : List Char) : Option (List Char) := do
  let (hour, rest) ← fixedDigits? 2 text
  let ':' :: rest := rest | none
  let (minute, rest) ← fixedDigits? 2 rest
  if 23 < hour || 59 < minute then none
  else match rest with
    | ':' :: rest => do
        let (second, rest) ← fixedDigits? 2 rest
        if 60 < second then none
        else match rest with
          | '.' :: c :: rest =>
              if c.isDigit then some (rest.dropWhile Char.isDigit) else none
          | rest => some rest
    | rest => some rest

/-- Whether a text is the distance of a time zone from universal time. -/
def isOffset : List Char → Bool
  | ['Z'] | ['z'] => true
  | sign :: text =>
      (sign == '+' || sign == '-') &&
        match fixedDigits? 2 text with
        | some (hour, ':' :: rest) =>
            match fixedDigits? 2 rest with
            | some (minute, []) => hour ≤ 23 && minute ≤ 59
            | _ => false
        | _ => false
  | [] => false

/-- Whether a word is a date, a time of day, or both, then perhaps with a time
zone. -/
def isDatetime (word : List Char) : Bool :=
  match date? word with
  | some [] => true
  | some (separator :: rest) =>
      (separator == 'T' || separator == 't' || separator == ' ') &&
        match time? rest with
        | some [] => true
        | some zone => isOffset zone
        | none => false
  | none => time? word == some []

def scalar? (word : List Char) : Option Item :=
  if word = "true".toList then some (.boolean true)
  else if word = "false".toList then some (.boolean false)
  else if isDatetime word then some (.datetime (String.ofList word))
  else if isFloat word then some (.float (String.ofList word))
  else (integer? word).map .integer

def isScalarChar (c : Char) : Bool :=
  c.isAlphanum || c == '_' || c == '+' || c == '-' || c == '.' || c == ':'

/-- Split off a word.  A blank between a date and a time of day belongs to it. -/
def splitScalar (text : List Char) : List Char × List Char :=
  let (word, rest) := text.span isScalarChar
  match date? word, rest with
  | some [], ' ' :: c :: more =>
      if c.isDigit then
        let (time, rest) := (c :: more).span isScalarChar
        (word ++ ' ' :: time, rest)
      else (word, rest)
  | _, _ => (word, rest)

end Toml
end CommandShell
