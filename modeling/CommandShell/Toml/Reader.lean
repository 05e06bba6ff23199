import CommandShell.Toml.Scalar

/-!
# Reading TOML

A document is a sequence of lines: headers, key-value lines, comments and blank
lines.  `parse?` yields the entries of the document, or nothing if the text is
not a document.
-/

namespace CommandShell
namespace Toml

def skipBlanks (text : List Char) : List Char :=
  text.dropWhile fun c => c == ' ' || c == '\t'

def skipComment : List Char → Option (List Char)
  | [] => some []
  | '\n' :: rest => some ('\n' :: rest)
  | '\r' :: '\n' :: rest => some ('\r' :: '\n' :: rest)
  | c :: rest => if isPlainChar c then skipComment rest else none

def skipTrailing (text : List Char) : Option (List Char) :=
  match skipBlanks text with
  | '#' :: rest => skipComment rest
  | rest => some rest

/-- Drop blanks, comments and line ends, with `fuel` as a bound on the number of
line ends. -/
def skipLines : (fuel : Nat) → List Char → Option (List Char)
  | 0, text => some text
  | fuel + 1, text => do
      match ← skipTrailing text with
      | '\n' :: rest | '\r' :: '\n' :: rest => skipLines fuel rest
      | rest => some rest

def isBareKeyChar (c : Char) : Bool :=
  c.isAlphanum || c == '_' || c == '-'

def keyPart? : List Char → Option (String × List Char)
  | '"' :: rest =>
      (basicString rest).map fun (key, rest) => (String.ofList key, rest)
  | '\'' :: rest =>
      (literalString rest).map fun (key, rest) => (String.ofList key, rest)
  | text =>
      match text.span isBareKeyChar with
      | ([], _) => none
      | (key, rest) => some (String.ofList key, rest)

/-- Read a key of at most `fuel` parts; its last part comes apart from those
before it. -/
def key? : (fuel : Nat) → List Char →
    Option ((List String × String) × List Char)
  | 0, _ => none
  | fuel + 1, text => do
      let (part, rest) ← keyPart? (skipBlanks text)
      match skipBlanks rest with
      | '.' :: rest => do
          let ((path, last), rest) ← key? fuel rest
          return ((part :: path, last), rest)
      | rest => return (([], part), rest)

mutual

/-- Read a value. -/
def value? : (fuel : Nat) → List Char → Option (Item × List Char)
  | 0, _ => none
  | fuel + 1, text =>
      match text with
      | '[' :: rest => do
          let (items, rest) ← items? fuel rest
          return (.array items, rest)
      | '{' :: rest => do
          let (entries, rest) ← inlineEntries? fuel [] rest
          return (.table .inline entries, rest)
      | '"' :: _ | '\'' :: _ =>
          (quotedString text).map fun (string, rest) =>
            (.string (String.ofList string), rest)
      | _ => do
          let (word, rest) := splitScalar text
          return (← scalar? word, rest)

def items? : (fuel : Nat) → List Char → Option (List Item × List Char)
  | 0, _ => none
  | fuel + 1, text => do
      match ← skipLines fuel text with
      | ']' :: rest => return ([], rest)
      | text => do
          let (item, rest) ← value? fuel text
          match ← skipLines fuel rest with
          | ',' :: rest => do
              let (items, rest) ← items? fuel rest
              return (item :: items, rest)
          | ']' :: rest => return ([item], rest)
          | _ => none

/-- Read the entries of an inline table up to its closing brace and add them to
those before. -/
def inlineEntries? : (fuel : Nat) → Entries → List Char →
    Option (Entries × List Char)
  | 0, _, _ => none
  | fuel + 1, entries, text => do
      match ← skipLines fuel text with
      | '}' :: rest => return (entries, rest)
      | text => do
          let ((path, key), rest) ← key? fuel text
          let '=' :: rest := rest | none
          let (item, rest) ← value? fuel (← skipLines fuel rest)
          let entries ← entries.addDotted? path key item
          match ← skipLines fuel rest with
          | ',' :: rest => inlineEntries? fuel entries rest
          | '}' :: rest => return (entries, rest)
          | _ => none

end

/-- What has been read of a document. -/
structure Document where
  entries : Entries := []
  /-- The path of the table to which key-value lines add. -/
  openPath : List String := []

namespace Document

/-- Read the closing brackets of a header and open what it names. -/
def openHeader? (document : Document) (path : List String) (key : String)
    (isElement : Bool) : Option Document := do
  let entries ←
    if isElement then document.entries.openElement? path key
    else document.entries.openTable? path key
  return { entries, openPath := path ++ [key] }

/-- Add a key-value line to the open table. -/
def add? (document : Document) (path : List String) (key : String)
    (item : Item) : Option Document := do
  let entries ← Entries.update? false
    (fun _ entries => entries.addDotted? path key item)
    .header document.openPath document.entries
  return { document with entries }

/-- Read a line that is not blank; what follows it is left over. -/
def readLine? (document : Document) (fuel : Nat) (text : List Char) :
    Option (Document × List Char) :=
  match text with
  | '[' :: '[' :: rest => do
      let ((path, key), rest) ← key? fuel rest
      let ']' :: ']' :: rest := rest | none
      return (← document.openHeader? path key true, rest)
  | '[' :: rest => do
      let ((path, key), rest) ← key? fuel rest
      let ']' :: rest := rest | none
      return (← document.openHeader? path key false, rest)
  | text => do
      let ((path, key), rest) ← key? fuel text
      let '=' :: rest := rest | none
      let (item, rest) ← value? fuel (skipBlanks rest)
      return (← document.add? path key item, rest)

/-- Read the rest of a document. -/
def readAll? (document : Document) : (fuel : Nat) → List Char →
    Option Document
  | 0, _ => none
  | fuel + 1, text => do
      match ← skipLines fuel text with
      | [] => return document
      | text => do
          let (document, rest) ← document.readLine? fuel text
          match ← skipTrailing rest with
          | [] => return document
          | '\n' :: rest | '\r' :: '\n' :: rest =>
              document.readAll? fuel rest
          | _ => none

end Document

/-- Drop the mark with which an encoded text may begin. -/
def dropMark : List Char → List Char
  | '\uFEFF' :: rest => rest
  | text => text

/-- The entries of a document.  Every step of the reader consumes a character
or ends, so the length of the text bounds their number. -/
def parse? (text : String) : Option Entries := do
  let text := dropMark text.toList
  let document ← ({} : Document).readAll? (2 * text.length + 4) text
  return document.entries

end Toml
end CommandShell
