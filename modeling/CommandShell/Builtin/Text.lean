import CommandShell.Module
import CommandShell.Regex.Engine
import CommandShell.Text.Line
import CommandShell.Unicode.Uppercase

/-!
# The module `text`

Commands that join, count, search and change texts.
-/

namespace CommandShell
namespace Builtin

/-- `echo` joins values to a text. -/
def echoCommand : Command where
  name := "echo"
  description := "Joins words=<list> with spaces; -n joins them without"
  rules := [.require "words"]
  returns := some .text
  handler _ bundle := do
    let words ← Handler.ofExcept (bundle.argument "words")
    let separator := if bundle.hasFlag "n" then "" else " "
    return .plainText (separator.intercalate (words.items.map Value.display))

def countValue (count : Nat) : Value := .integer (Int64.ofNat count)

/-- `wc` counts the lines, words and bytes of a text. -/
def countCommand : Command where
  name := "wc"
  description := "Counts the lines, words and bytes of text=<text>"
  rules := [.require "text", .typeOf .text "text"]
  returns := some .list
  handler _ bundle := do
    let content ← Handler.ofExcept (bundle.text "text")
    return .list [countValue (Text.lines content).length,
      countValue (Text.wordCount content), countValue content.utf8ByteSize]

/-- The pattern that finds another pattern as whole words only. -/
def wholeWords (pattern : String) : String := "\\b(" ++ pattern ++ ")\\b"

/-- Select lines, and stop between two of them if the step is cancelled. -/
def selectLines (selects : String → Bool) : List String → Handler (List String)
  | [] => pure []
  | line :: rest => do
      Handler.checkpoint
      let selected ← selectLines selects rest
      return if selects line then line :: selected else selected

/-- `grep` selects the lines of a text that match a pattern. -/
def selectCommand (engine : Regex.Engine := .standard) : Command where
  name := "grep"
  description := "Lines of text=<text> matching pattern=<regex>; " ++
    "-i ignores case, -w matches whole words"
  rules := [.require "pattern", .require "text", .typeOf .text "pattern",
    .typeOf .text "text"]
  returns := some .list
  handler _ bundle := do
    let typed ← Handler.ofExcept (bundle.text "pattern")
    let pattern := if bundle.hasFlag "w" then wholeWords typed else typed
    match engine.build pattern (bundle.hasFlag "i") with
    | .error refusal => Handler.fail (.badUsage
        s!"Invalid regex pattern {typed}: {refusal.text}")
    | .ok expression =>
        let content ← Handler.ofExcept (bundle.text "text")
        let selected ← selectLines (engine.isMatch expression) (Text.lines content)
        return .list (selected.map Value.plainText)

/-- `upper` turns a text into upper case. -/
def uppercaseCommand : Command where
  name := "upper"
  description := "Upper-cases text=<text>"
  rules := [.require "text", .typeOf .text "text"]
  returns := some .text
  handler _ bundle := do
    let content ← Handler.ofExcept (bundle.text "text")
    return .plainText (Unicode.uppercaseText content)

def textModule : Except ShellError Module :=
  Module.build "text" "1.0" .green
    [echoCommand, countCommand, selectCommand, uppercaseCommand]

end Builtin
end CommandShell
