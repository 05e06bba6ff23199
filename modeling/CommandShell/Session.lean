import CommandShell.Registry
import CommandShell.SystemModule

/-!
# Sessions

A session is everything the shell remembers between lines: the loaded modules,
the macros, the output of the last command, the libraries to load from, and
whether an exit was asked for.
-/

namespace CommandShell

/-- What the shell remembers between lines. -/
structure Session where
  registry : Registry
  macros : MacroTable := ∅
  /-- The output of the last line that had one. -/
  previous : Option Value := none
  catalog : Catalog := ∅
  exitRequested : Bool := false
  /-- The number of images that have been created. -/
  images : Nat := 0

namespace Session

/-- A session in which only the system module is loaded. -/
def new (catalog : Catalog) : Except ShellError Session := do
  let system ← SystemModule.module
  let registry ← Registry.add ∅ system
  return { registry, catalog }

/-- Load a module that belongs to no library. -/
def register (session : Session) (module : Module) :
    Except ShellError Session := do
  let registry ← session.registry.add module
  return { session with registry }

/-- Load modules one after the other.  Those before the first failure stay
loaded. -/
def registerAll (session : Session) :
    List Module → Session × Except ShellError (List String)
  | [] => (session, .ok [])
  | module :: rest =>
      match session.register module with
      | .error error => (session, .error error)
      | .ok extended =>
          let (final, names) := extended.registerAll rest
          (final, names.map (module.name :: ·))

/-- Load every module of a library, provided that none of them is loaded. -/
def loadLibrary (session : Session) (library : String) :
    Session × Except ShellError (List String) :=
  match session.catalog.instantiate library with
  | .error error => (session, .error error)
  | .ok modules =>
      match modules.find? fun module =>
          session.registry.contains module.name with
      | some taken => (session, .error
          (.moduleLoadFailure s!"module {taken.name} is already loaded"))
      | none => session.registerAll modules

/-- Load one module of a library. -/
def loadModule (session : Session) (library name : String) :
    Except ShellError Session := do
  let modules ← session.catalog.instantiate library
  match modules.find? fun module => module.name == name with
  | some module => session.register module
  | none =>
      .error (.moduleLoadFailure s!"library {library} has no module {name}")

/-- Unload a module other than the system module. -/
def unloadModule (session : Session) (name : String) :
    Except ShellError Session := do
  if name = SystemModule.moduleName then
    .error (.badUsage s!"the {name} module cannot be unloaded")
  else
    let registry ← session.registry.remove name
    return { session with registry }

def requestExit (session : Session) : Session :=
  { session with exitRequested := true }

def addMacro (session : Session) (name body : String) :
    Except ShellError Session := do
  let macros ← session.macros.add name body
  return { session with macros }

def editMacro (session : Session) (name body : String) :
    Except ShellError Session := do
  let macros ← session.macros.edit name body
  return { session with macros }

def deleteMacro (session : Session) (name : String) :
    Except ShellError (String × Session) := do
  let (body, macros) ← session.macros.delete name
  return (body, { session with macros })

/-- Add the stored macros whose names are free. -/
def adoptMacros (session : Session) (stored : NameMap String) :
    Session × Except ShellError Unit :=
  let (macros, result) := session.macros.adopt stored.toList
  ({ session with macros }, result)

/-- Create a blank image with a handle of its own. -/
def blankImage (session : Session) (width height : Nat) :
    Except ShellError (Image × Session) := do
  let image ← Image.blank session.images width height
  return (image, { session with images := session.images + 1 })

end Session

end CommandShell
