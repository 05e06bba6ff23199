/-!
# Quoted strings in TOML

A string stands in double quotes, with escapes, or in single quotes, without.
Three quotes open a string that may contain line ends.  Each reader here starts
after the opening quotes and yields the characters of the string and the rest of
the document.
-/

namespace CommandShell
namespace Toml

def hexDigit? (c : Char) : Option Nat :=
  if c.isDigit then some (c.toNat - '0'.toNat)
  else if 'a' ≤ c ∧ c ≤ 'f' then some (c.toNat - 'a'.toNat + 10)
  else if 'A' ≤ c ∧ c ≤ 'F' then some (c.toNat - 'A'.toNat + 10)
  else none

def codePoint? (digits : List Char) : Option Char := do
  let values ← digits.mapM hexDigit?
  let code := values.foldl (fun code value => 16 * code + value) 0
  if code.isValidChar then some (Char.ofNat code) else none

/-- The character that a backslash and one letter stand for. -/
def shortEscape? : Char → Option Char
  | 'b' => some '\x08'
  | 't' => some '\t'
  | 'n' => some '\n'
  | 'f' => some '\x0c'
  | 'r' => some '\r'
  | 'e' => some '\x1b'
  | '"' => some '"'
  | '\\' => some '\\'
  | _ => none

/-- Whether a character may stand in a string or a comment as it is. -/
def isPlainChar (c : Char) : Bool :=
  c == '\t' || (0x20 ≤ c.toNat && c.toNat != 0x7F)

/-- What a reader of quoted strings yields: a string and the rest. -/
abbrev Quoted := Option (List Char × List Char)

def Quoted.cons (c : Char) (quoted : Quoted) : Quoted :=
  quoted.map fun (text, rest) => (c :: text, rest)

def basicString : List Char → Quoted
  | [] => none
  | '"' :: rest => some ([], rest)
  | '\\' :: 'x' :: a :: b :: rest => do
      let c ← codePoint? [a, b]
      (basicString rest).cons c
  | '\\' :: 'u' :: a :: b :: c :: d :: rest => do
      let c ← codePoint? [a, b, c, d]
      (basicString rest).cons c
  | '\\' :: 'U' :: a :: b :: c :: d :: e :: f :: g :: h :: rest => do
      let c ← codePoint? [a, b, c, d, e, f, g, h]
      (basicString rest).cons c
  | '\\' :: letter :: rest => do
      let c ← shortEscape? letter
      (basicString rest).cons c
  | c :: rest =>
      if isPlainChar c && c != '\\' then (basicString rest).cons c else none

def literalString : List Char → Quoted
  | [] => none
  | '\'' :: rest => some ([], rest)
  | c :: rest =>
      if isPlainChar c then (literalString rest).cons c else none

/-- A string in three single quotes.  One or two of the quotes right before the
closing ones belong to the string. -/
def literalBlock : List Char → Quoted
  | '\'' :: '\'' :: '\'' :: '\'' :: '\'' :: rest =>
      some (['\'', '\''], rest)
  | '\'' :: '\'' :: '\'' :: '\'' :: rest => some (['\''], rest)
  | '\'' :: '\'' :: '\'' :: rest => some ([], rest)
  | '\r' :: '\n' :: rest => ((literalBlock rest).cons '\n').cons '\r'
  | '\n' :: rest => (literalBlock rest).cons '\n'
  | c :: rest =>
      if isPlainChar c then (literalBlock rest).cons c else none
  | [] => none

/-- Where the reader of a string in three double quotes is. -/
inductive BlockPosition where
  /-- In the text of the string. -/
  | text
  /-- After a backslash that joins lines, before the line end. -/
  | joining
  /-- After that line end, before the text goes on. -/
  | joined
  deriving DecidableEq, Repr

/-- A string in three double quotes.  A backslash at the end of a line drops the
line end and all blanks and line ends that follow. -/
def basicBlock : BlockPosition → List Char → Quoted
  | .joining, ' ' :: rest | .joining, '\t' :: rest => basicBlock .joining rest
  | .joining, '\n' :: rest | .joining, '\r' :: '\n' :: rest =>
      basicBlock .joined rest
  | .joining, _ => none
  | .joined, ' ' :: rest | .joined, '\t' :: rest | .joined, '\n' :: rest
  | .joined, '\r' :: '\n' :: rest => basicBlock .joined rest
  | _, '"' :: '"' :: '"' :: '"' :: '"' :: rest => some (['"', '"'], rest)
  | _, '"' :: '"' :: '"' :: '"' :: rest => some (['"'], rest)
  | _, '"' :: '"' :: '"' :: rest => some ([], rest)
  | _, '\r' :: '\n' :: rest => ((basicBlock .text rest).cons '\n').cons '\r'
  | _, '\n' :: rest => (basicBlock .text rest).cons '\n'
  | _, '\\' :: 'x' :: a :: b :: rest => do
      let c ← codePoint? [a, b]
      (basicBlock .text rest).cons c
  | _, '\\' :: 'u' :: a :: b :: c :: d :: rest => do
      let c ← codePoint? [a, b, c, d]
      (basicBlock .text rest).cons c
  | _, '\\' :: 'U' :: a :: b :: c :: d :: e :: f :: g :: h :: rest => do
      let c ← codePoint? [a, b, c, d, e, f, g, h]
      (basicBlock .text rest).cons c
  | _, '\\' :: letter :: rest =>
      match letter with
      | ' ' | '\t' => basicBlock .joining rest
      | '\n' => basicBlock .joined rest
      | '\r' =>
          match rest with
          | '\n' :: rest => basicBlock .joined rest
          | _ => none
      | letter => do
          let c ← shortEscape? letter
          (basicBlock .text rest).cons c
  | _, c :: rest =>
      if isPlainChar c && c != '\\' then (basicBlock .text rest).cons c
      else none
  | _, [] => none

/-- Drop the line end right after the quotes that open a string of several
lines. -/
def dropLineEnd : List Char → List Char
  | '\r' :: '\n' :: rest => rest
  | '\n' :: rest => rest
  | rest => rest

/-- A quoted string of any kind, from its opening quotes. -/
def quotedString : List Char → Quoted
  | '"' :: '"' :: '"' :: rest => basicBlock .text (dropLineEnd rest)
  | '\'' :: '\'' :: '\'' :: rest => literalBlock (dropLineEnd rest)
  | '"' :: rest => basicString rest
  | '\'' :: rest => literalString rest
  | _ => none

end Toml
end CommandShell
