import CommandShell.Command

/-!
# Modules

A module is a named and versioned group of commands.  Every module has the
commands `version`, `cmdlist` and `help` in addition to its own.
-/

namespace CommandShell

/-- A group of commands under a name and a version. -/
structure Module where
  name : String
  version : String
  color : Color
  /-- The commands by name. -/
  commands : NameMap Command

namespace Module

/-- The view of a module that handlers get. -/
def info (module : Module) : ModuleInfo where
  name := module.name
  version := module.version
  color := module.color
  commands := module.commands.values.map (·.toSignature)

def hasCommand (module : Module) (name : String) : Bool :=
  module.commands.contains name

def command? (module : Module) (name : String) : Option Command :=
  module.commands.find? name

/-- `version` yields the version of the module. -/
def versionCommand : Command where
  name := "version"
  description := "Shows the module version"
  returns := some .text
  handler module _ := pure (.text module.version .aqua)

/-- `cmdlist` yields the names of the commands. -/
def listCommand : Command where
  name := "cmdlist"
  description := "Lists the commands of the module"
  returns := some .list
  handler module _ := pure (.list (module.commands.map (.plainText ·.name)))

/-- The lines that describe a command of a module. -/
def describeCommand (module : ModuleInfo) (command : Signature) : List Value :=
  let title := .text s!"{module.name}.{command.name}" module.color
  let description :=
    if command.description.isEmpty then []
    else [.plainText command.description]
  let rules := command.rules.map fun rule => .text rule.describe .gray
  let returns := command.returns.toList.map fun kind =>
    .text s!"returns {kind.name}" .gray
  title :: (description ++ rules ++ returns)

def describe (module : ModuleInfo) : List Value :=
  [.text s!"{module.name} {module.version}" module.color,
    .text s!"Run {module.name}.cmdlist to see the available commands." .gray]

/-- `help` describes the module, or the command that `cmd` names. -/
def helpCommand : Command where
  name := "help"
  description := "Describes the module, or one of its commands with cmd=<name>"
  rules := [.typeOf .text "cmd"]
  returns := some .list
  handler module bundle :=
    match bundle.get? "cmd" with
    | some (.text name _) =>
        match module.commands.find? fun command => command.name == name with
        | some command => pure (.list (describeCommand module command))
        | none => Handler.fail (.noSuchCommand s!"{module.name}.{name}")
    | _ => pure (.list (describe module))

/-- The commands that every module has. -/
def implicitCommands : List Command :=
  [versionCommand, listCommand, helpCommand]

/-- Add commands one after the other; each needs a valid name of its own. -/
def addCommands (module : String) (commands : NameMap Command) :
    List Command → Except ShellError (NameMap Command)
  | [] => .ok commands
  | command :: rest =>
      if !isValidName command.name then
        .error (.invalidCommandName command.name)
      else if commands.contains command.name then
        .error (.duplicateCommand module command.name)
      else addCommands module (commands.insert command.name command) rest

/-- Assemble a module from its own commands. -/
def build (name version : String) (color : Color) (commands : List Command) :
    Except ShellError Module :=
  if !isValidName name then .error (.invalidCommandName name)
  else do
    let commands ← addCommands name ∅ (implicitCommands ++ commands)
    return { name, version, color, commands }

end Module

end CommandShell
