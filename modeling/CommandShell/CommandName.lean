import CommandShell.Error
import CommandShell.Token

/-!
# The name at the head of a line

A line begins with the name of a command, which may be qualified by the module
that owns it.  The head is the longest run of the form `word? ('.' word?)*`;
what follows it belongs to the bundle.
-/

namespace CommandShell

/-- The command that a line names. -/
inductive CommandName where
  /-- A command of any loaded module. -/
  | bare (command : String)
  /-- A command of one module. -/
  | qualified (module command : String)
  deriving DecidableEq, Repr, Inhabited

namespace CommandName

def text : CommandName → String
  | .bare command => command
  | .qualified module command => module ++ "." ++ command

/-- Take the word at the front of the tokens, or the empty text. -/
def takeWord : List Token → String × List Token
  | .word text :: rest => (text, rest)
  | tokens => ("", tokens)

/-- Take the parts of a head that follow its first one. -/
def takeParts : List Token → List String × List Token
  | .moduleDelimiter :: .word text :: rest =>
      let (parts, rest) := takeParts rest
      (text :: parts, rest)
  | .moduleDelimiter :: rest =>
      let (parts, rest) := takeParts rest
      ("" :: parts, rest)
  | tokens => ([], tokens)

/-- The name that the dotted parts of a head form. -/
def ofParts : List String → Except ShellError CommandName
  | [command] => .ok (.bare command)
  | [module, command] =>
      if module.isEmpty || command.isEmpty then
        .error (.malformedQualifiedName (".".intercalate [module, command]))
      else .ok (.qualified module command)
  | parts => .error (.malformedQualifiedName (".".intercalate parts))

/-- Split the name of the command off the tokens of a line. -/
def split (tokens : List Token) :
    Except ShellError (CommandName × List Token) := do
  match tokens.head? with
  | none | some (.word _) | some .moduleDelimiter => pure ()
  | some token => throw (.unexpectedToken token.text)
  let (first, afterFirst) := takeWord tokens
  let (more, rest) := takeParts afterFirst
  let name ← ofParts (first :: more)
  return (name, rest)

end CommandName

end CommandShell
