import CommandShell.CommandName
import CommandShell.Module

/-!
# Loaded modules and loadable libraries

The registry holds the loaded modules under their names and finds the command
that a name refers to.  The catalog holds the libraries from which modules can
be loaded.
-/

namespace CommandShell

/-- The loaded modules, by name. -/
abbrev Registry := NameMap Module

namespace Registry

/-- Load a module; no module of that name may be loaded. -/
def add (registry : Registry) (module : Module) :
    Except ShellError Registry :=
  if registry.contains module.name then
    .error (.moduleLoadFailure s!"module {module.name} is already loaded")
  else .ok (registry.insert module.name module)

def remove (registry : Registry) (name : String) :
    Except ShellError Registry :=
  if registry.contains name then .ok (registry.erase name)
  else .error (.noSuchModule name)

/-- The loaded modules that have a command of a name. -/
def owners (registry : Registry) (command : String) : List Module :=
  registry.values.filter fun module => module.hasCommand command

/-- The command that a name refers to, and the module that owns it. -/
def resolve (registry : Registry) :
    CommandName → Except ShellError (Module × Command)
  | .qualified module command =>
      match registry.find? module with
      | none => .error (.noSuchModule module)
      | some owner =>
          match owner.command? command with
          | none =>
              .error (.noSuchCommand (CommandName.qualified module command).text)
          | some found => .ok (owner, found)
  | .bare command =>
      match registry.owners command with
      | [] => .error (.noSuchCommand command)
      | [owner] =>
          match owner.command? command with
          | none => .error (.noSuchCommand command)
          | some found => .ok (owner, found)
      | several =>
          .error (.ambiguousCommand command (several.map (·.name)))

end Registry

/-- The libraries, by name.  A library lists what assembling each of its
modules gives. -/
abbrev Catalog := NameMap (List (Except ShellError Module))

namespace Catalog

/-- Assemble every module of a library. -/
def instantiate (catalog : Catalog) (library : String) :
    Except ShellError (List Module) :=
  match catalog.find? library with
  | none => .error (.moduleLoadFailure s!"no library named {library}")
  | some modules => modules.mapM fun
      | .ok module => .ok module
      | .error error => .error
          (.moduleLoadFailure s!"{library} failed to build: {error.message}")

end Catalog

end CommandShell
