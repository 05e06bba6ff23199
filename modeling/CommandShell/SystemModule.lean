import CommandShell.Module

/-!
# The system module

The module `wah` manages the shell itself: modules, macros, nested calls and
the end of the session.  It is always loaded.
-/

namespace CommandShell
namespace SystemModule

def moduleName : String := "wah"

def moduleVersion : String := "Ichi alpha 0"

/-- `modlist` yields the names of the loaded modules. -/
def modulesCommand : Command where
  name := "modlist"
  description := "Lists the loaded modules"
  returns := some .list
  handler _ _ := do
    let modules ← Handler.modules
    return .list (modules.map fun module => .text module.name module.color)

/-- What `macro` is asked to do. -/
inductive MacroAction where
  | add
  | edit
  | delete
  | list
  deriving DecidableEq, Repr

def MacroAction.flag : MacroAction → String
  | .add => "add"
  | .edit => "edit"
  | .delete => "delete"
  | .list => "list"

/-- The actions whose flags are set. -/
def macroActions (bundle : Bundle) : List MacroAction :=
  [.add, .edit, .delete, .list].filter fun action =>
    bundle.hasFlag action.flag

/-- The text of an argument that an action of `macro` needs. -/
def macroArgument (bundle : Bundle) (action : MacroAction) (name : String) :
    Except ShellError String :=
  if bundle.hasArgument name then bundle.text name
  else .error
    (.badUsage s!"macro -{action.flag} needs the {name} argument")

/-- `macro` adds, edits, deletes or lists macros. -/
def macroCommand : Command where
  name := "macro"
  description :=
    "Manages macros: -add name= body=, -edit name= body=, -delete name=, -list"
  rules := [.typeOf .text "name", .typeOf .text "body"]
  returns := some .none
  handler _ bundle := do
    match macroActions bundle with
    | [.list] =>
        let macros ← Handler.macros
        if !macros.isEmpty then
          Handler.print (.list (macros.map fun (name, body) =>
            .plainText s!"{name} => {body}"))
    | [.delete] =>
        let name ← Handler.ofExcept (macroArgument bundle .delete "name")
        let _ ← Handler.deleteMacro name
    | [.add] =>
        let name ← Handler.ofExcept (macroArgument bundle .add "name")
        let body ← Handler.ofExcept (macroArgument bundle .add "body")
        Handler.addMacro name body
    | [.edit] =>
        let name ← Handler.ofExcept (macroArgument bundle .edit "name")
        let body ← Handler.ofExcept (macroArgument bundle .edit "body")
        Handler.editMacro name body
    | _ => Handler.fail (.badUsage
        "macro needs exactly one of -add, -edit, -delete or -list")
    return .none

/-- `call` runs a line as a nested call and yields its value. -/
def callCommand : Command where
  name := "call"
  description := "Runs line=<text> as a nested call and returns its result"
  handler _ bundle := do
    match bundle.get? "line" with
    | none => Handler.fail (.badUsage "call needs line=<text>")
    | some line =>
        let value ← Handler.call line.display
        Handler.print (.text "Call Results:" .gray)
        return value

/-- `load` loads a library or one module of it. -/
def loadCommand : Command where
  name := "load"
  description := "Loads a library, or only its module mod="
  rules := [.require "lib", .typeOf .text "lib", .typeOf .text "mod"]
  returns := some .none
  handler _ bundle := do
    let library ← Handler.ofExcept (bundle.text "lib")
    if bundle.hasArgument "mod" then
      let name ← Handler.ofExcept (bundle.text "mod")
      Handler.loadModule library name
    else
      let _ ← Handler.loadLibrary library
    return .none

def unloadCommand : Command where
  name := "unload"
  description := "Unloads a module"
  rules := [.require "mod", .typeOf .text "mod"]
  returns := some .none
  handler _ bundle := do
    let name ← Handler.ofExcept (bundle.text "mod")
    Handler.unloadModule name
    return .none

def exitCommand : Command where
  name := "exit"
  description := "Stops the shell"
  returns := some .none
  handler _ _ := do
    Handler.requestExit
    return .none

/-- `wah!` says so. -/
def shoutCommand : Command where
  name := "wah!"
  description := "Wah!"
  returns := some .text
  handler _ _ := pure (.plainText "Wah!")

/-- `wah?` shows the question and yields the answer. -/
def askCommand : Command where
  name := "wah?"
  description := "Asks, then answers"
  handler _ _ := do
    Handler.print (.plainText "Wah?")
    Handler.call "wah!"

/-- `sleep` waits; a negative time is no time. -/
def sleepCommand : Command where
  name := "sleep"
  description := "Waits ms=<n> milliseconds; can be interrupted"
  rules := [.require "ms", .typeOf .integer "ms"]
  returns := some .none
  handler _ bundle := do
    let milliseconds ← Handler.ofExcept (bundle.integer "ms")
    Handler.sleep milliseconds.toInt.toNat
    return .none

/-- `string` turns a value into the text that stands for it. -/
def stringCommand : Command where
  name := "string"
  description := "Turns i=<value> into text"
  rules := [.require "i"]
  returns := some .text
  handler _ bundle := do
    let value ← Handler.ofExcept (bundle.argument "i")
    return .plainText value.display

def commands : List Command :=
  [modulesCommand, macroCommand, callCommand, loadCommand, unloadCommand,
    exitCommand, shoutCommand, askCommand, sleepCommand, stringCommand]

def module : Except ShellError Module :=
  Module.build moduleName moduleVersion .gold commands

end SystemModule
end CommandShell
