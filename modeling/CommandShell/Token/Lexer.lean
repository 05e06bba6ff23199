import CommandShell.Error
import CommandShell.Text.Blank
import CommandShell.Token

/-!
# From a line to its tokens

Blanks separate words, a backslash takes the next character literally, a quote
takes everything up to the closing quote, and every special character is a
token of its own.  A dash right behind the text of a word belongs to that word.
A closing quote ends its word, and words in quotes may be empty.
-/

namespace CommandShell
namespace Token

/-- What the scanner is in the middle of. -/
inductive ScanState where
  /-- No word has begun. -/
  | between
  /-- A word that has begun with `text`. -/
  | inWord (text : String)
  /-- A quoted word that has begun with `text`. -/
  | inQuote (text : String)
  deriving DecidableEq, Repr, Inhabited

namespace ScanState

def text : ScanState → String
  | .between => ""
  | .inWord text => text
  | .inQuote text => text

/-- The token that is complete if the word under way ends here. -/
def flush : ScanState → List Token
  | .inWord text => [.word text]
  | _ => []

end ScanState

/-- The tokens of the rest of a line. -/
def scan : ScanState → List Char → Except ShellError (List Token)
  | .inQuote _, [] => .error .unterminatedQuote
  | state, [] => .ok state.flush
  | _, ['\\'] => .error .unterminatedEscape
  | .inQuote text, '\\' :: c :: rest => scan (.inQuote (text.push c)) rest
  | state, '\\' :: c :: rest => scan (.inWord (state.text.push c)) rest
  | .inQuote text, c :: rest =>
      if c = '"' then do return .word text :: (← scan .between rest)
      else scan (.inQuote (text.push c)) rest
  | state, c :: rest =>
      if isBlank c then do return state.flush ++ (← scan .between rest)
      else if c = '"' then scan (.inQuote state.text) rest
      else
        match state, special? c with
        | .inWord text, some .flagMarker => scan (.inWord (text.push c)) rest
        | state, some token => do
            return state.flush ++ token :: (← scan .between rest)
        | state, none => scan (.inWord (state.text.push c)) rest

end Token

/-- The tokens of a line. -/
def tokenize (line : String) : Except ShellError (List Token) :=
  Token.scan .between line.toList

end CommandShell
