import CommandShell.Regex.Property
import CommandShell.Regex.Syntax

/-!
# Escape sequences of regular expressions

A backslash takes the meaning from a character that has one, names a character
by its code, stands for a set of characters or for a condition on a position.
-/

namespace CommandShell
namespace Regex

/-- What an escape sequence stands for. -/
inductive Escape where
  /-- One character. -/
  | literal (c : Char)
  /-- A byte given by two hexadecimal digits. -/
  | byte (c : Char)
  /-- A set of characters, already subject to the flags. -/
  | set (members : CharSet)
  /-- A condition on a position. -/
  | look (condition : Look)
  deriving Repr, Inhabited

/-- The characters that have a meaning without a backslash. -/
def isMeta (c : Char) : Bool :=
  ("\\.+*?()|[]\x7b\x7d^$#&-~".toList).contains c

/-- Whether a backslash before a character stands for the character itself. -/
def isEscapable (c : Char) : Bool :=
  isMeta c ||
    (c.toNat < 128 && !c.isAlphanum && c != '<' && c != '>')

def hexDigit? (c : Char) : Option Nat :=
  if c.isDigit then some (c.toNat - '0'.toNat)
  else if 'a' ≤ c && c ≤ 'f' then some (c.toNat - 'a'.toNat + 10)
  else if 'A' ≤ c && c ≤ 'F' then some (c.toNat - 'A'.toNat + 10)
  else none

def charOfCode (code : Nat) : Except SyntaxError Char :=
  if code.isValidChar then .ok (Char.ofNat code) else .error .escapeHexInvalid

def readHexDigits (flags : Flags) (value : Nat) :
    Nat → List Char → Except SyntaxError (Nat × List Char)
  | 0, rest => .ok (value, rest)
  | count + 1, pattern =>
      match flags.skip pattern with
      | [] => .error .escapeUnexpectedEnd
      | c :: rest =>
          match hexDigit? c with
          | none => .error .escapeHexInvalidDigit
          | some digit => readHexDigits flags (16 * value + digit) count rest

/-- Read hexadecimal digits up to a closing brace. -/
def readHexBrace (flags : Flags) (digits : List Nat) :
    List Char → Except SyntaxError (Nat × List Char)
  | [] => .error .escapeUnexpectedEnd
  | c :: rest =>
      if c = '\x7d' then
        if digits.isEmpty then .error .escapeHexEmpty
        else .ok (digits.foldl (fun value digit => 16 * value + digit) 0, rest)
      else if flags.verbose && isBlank c then readHexBrace flags digits rest
      else
        match hexDigit? c with
        | none => .error .escapeHexInvalidDigit
        | some digit => readHexBrace flags (digits ++ [digit]) rest

/-- Read the code of a character, behind the letter that announces it. -/
def readHex (flags : Flags) (digits : Nat) (pattern : List Char) :
    Except SyntaxError (Escape × List Char) :=
  match flags.skip pattern with
  | [] => .error .escapeUnexpectedEnd
  | '\x7b' :: rest => do
      let (code, rest) ← readHexBrace flags [] rest
      let c ← charOfCode code
      return (.literal c, rest)
  | pattern => do
      let (code, rest) ← readHexDigits flags 0 digits pattern
      let c ← charOfCode code
      return (if digits = 2 then .byte c else .literal c, rest)

/-- The set that a letter such as `d` or `D` stands for. -/
def letterSet (flags : Flags) (property : CharProperty) (negated : Bool) :
    Except SyntaxError CharSet :=
  let positive :=
    if flags.unicode then .having property
    else
      match property with
      | .digit => .asciiDigit
      | .blank => .asciiBlank
      | .word => .asciiWord
  if negated && !flags.unicode then .error .invalidEncoding
  else .ok (if negated then .complement positive else positive)

/-- Whether a character can belong to the name of a word boundary. -/
def isBoundaryNameChar (c : Char) : Bool := c.isAlpha || c == '-'

/-- Read the name of a word boundary up to its closing brace. -/
def readBoundaryName (flags : Flags) (name : List Char) :
    List Char → Except SyntaxError (String × List Char)
  | [] => .error .wordBoundaryUnclosed
  | c :: rest =>
      if isBoundaryNameChar c then readBoundaryName flags (name ++ [c]) rest
      else if c = '\x7d' then .ok (String.ofList name, rest)
      else if flags.verbose && isBlank c then readBoundaryName flags name rest
      else .error .wordBoundaryUnclosed

/-- Read what follows the letter `b`: the name of a special word boundary in
braces, or nothing that belongs to it. -/
def readBoundary (flags : Flags) (pattern : List Char) :
    Except SyntaxError (Look × List Char) :=
  let ascii := !flags.unicode
  match pattern with
  | '\x7b' :: rest =>
      match flags.skip rest with
      | [] => .error .wordBoundaryUnclosed
      | c :: rest' =>
          if isBoundaryNameChar c then do
            let (name, rest) ← readBoundaryName flags [] (c :: rest')
            match name with
            | "start" => return (.wordStart ascii, rest)
            | "end" => return (.wordEnd ascii, rest)
            | "start-half" => return (.wordStartHalf ascii, rest)
            | "end-half" => return (.wordEndHalf ascii, rest)
            | _ => .error .wordBoundaryUnrecognized
          else .ok (.wordBoundary ascii, pattern)
  | _ => .ok (.wordBoundary ascii, pattern)

/-- Read the name of a Unicode property, behind the letter `p`. -/
def readPropertyName (flags : Flags) (pattern : List Char) :
    Except SyntaxError (String × List Char) :=
  match flags.skip pattern with
  | [] => .error .escapeUnexpectedEnd
  | '\x7b' :: rest =>
      let name := rest.takeWhile (· != '\x7d')
      match rest.dropWhile (· != '\x7d') with
      | [] => .error .escapeUnexpectedEnd
      | _ :: rest => .ok (String.ofList name, rest)
  | '\\' :: _ => .error .propertyInvalid
  | c :: rest => .ok (c.toString, rest)

/-- Read an escape sequence, behind its backslash. -/
def readEscape (flags : Flags) :
    List Char → Except SyntaxError (Escape × List Char)
  | [] => .error .escapeUnexpectedEnd
  | c :: rest =>
      let set (property : CharProperty) (negated : Bool) := do
        let members ← letterSet flags property negated
        return (Escape.set members, rest)
      let ascii := !flags.unicode
      match c with
      | 'x' => readHex flags 2 rest
      | 'u' => readHex flags 4 rest
      | 'U' => readHex flags 8 rest
      | 'd' => set .digit false
      | 'D' => set .digit true
      | 's' => set .blank false
      | 'S' => set .blank true
      | 'w' => set .word false
      | 'W' => set .word true
      | 'p' | 'P' => do
          let (name, rest) ← readPropertyName flags rest
          if !flags.unicode then throw .unicodeNotAllowed
          match propertySet? name with
          | none => throw .propertyNotFound
          | some members =>
              let members :=
                if flags.ignoreCase then .folded members else members
              return (.set (if c = 'P' then .complement members else members),
                rest)
      | 'a' => .ok (.literal '\x07', rest)
      | 'f' => .ok (.literal '\x0c', rest)
      | 't' => .ok (.literal '\t', rest)
      | 'n' => .ok (.literal '\n', rest)
      | 'r' => .ok (.literal '\r', rest)
      | 'v' => .ok (.literal '\x0b', rest)
      | 'A' => .ok (.look .textStart, rest)
      | 'z' => .ok (.look .textEnd, rest)
      | 'b' => do
          let (boundary, rest) ← readBoundary flags rest
          return (.look boundary, rest)
      | 'B' => .ok (.look (.noWordBoundary ascii), rest)
      | '<' => .ok (.look (.wordStart ascii), rest)
      | '>' => .ok (.look (.wordEnd ascii), rest)
      | c =>
          if c.isDigit then .error .backreference
          else if isEscapable c then .ok (.literal c, rest)
          else .error .escapeUnrecognized

end Regex
end CommandShell
