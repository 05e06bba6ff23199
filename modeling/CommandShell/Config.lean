import CommandShell.Builtin.Library
import CommandShell.MacroFile
import CommandShell.Text.Escaped

/-!
# Configuration

The configuration of the shell is a TOML document.  Settings that it leaves out
have defaults, and keys that are no settings are ignored.  A configuration is
used only if its prompt is not blank and its macros have valid names.
-/

namespace CommandShell

structure Config where
  /-- What is shown before each input line. -/
  prompt : String := "Wah!~"
  /-- Which events are logged. -/
  log : String := "warn"
  /-- The libraries that are loaded at the start. -/
  autoload : List String := [Builtin.libraryName]
  /-- Where macros are kept between sessions, if anywhere. -/
  macroFile : Option String := none
  /-- The macros that are defined at the start. -/
  macros : NameMap String := ∅

/-- Why a configuration cannot be used. -/
inductive ConfigError where
  /-- The file is there but cannot be read. -/
  | unreadable (path : String)
  /-- The text is not a document, or a setting has the wrong type. -/
  | malformed (path : String)
  | blankPrompt
  | invalidMacroName (name : String)
  deriving DecidableEq, Repr, Inhabited

def ConfigError.message : ConfigError → String
  | .unreadable path => s!"can't read {path}"
  | .malformed path => s!"{path} is not valid TOML"
  | .blankPrompt => "bad setting: prompt is blank"
  | .invalidMacroName name =>
      s!"bad setting: macro name {Text.escaped name}"

namespace Config

/-- The value of a setting, or its default if it is left out. -/
def setting {α : Type} (entries : Toml.Entries) (key : String)
    (read? : Toml.Item → Option α) (default : α) : Option α :=
  match entries.find? key with
  | none => some default
  | some item => read? item

/-- The settings in the entries of a document, if all have the right type. -/
def ofEntries? (entries : Toml.Entries) : Option Config := do
  let defaults : Config := {}
  return {
    prompt := ← setting entries "prompt" Toml.Item.text? defaults.prompt
    log := ← setting entries "log" Toml.Item.text? defaults.log
    autoload := ← setting entries "autoload" Toml.Item.texts? defaults.autoload
    macroFile := ← setting entries "macro_file"
      (fun item => item.text?.map some) defaults.macroFile
    macros := ← setting entries "macros" Toml.Item.textTable? defaults.macros }

/-- Check the prompt first and then the macro names in ascending order. -/
def validate (config : Config) : Except ConfigError Unit :=
  if isBlankText config.prompt then .error .blankPrompt
  else match config.macros.names.find? fun name => !isValidName name with
    | some name => .error (.invalidMacroName name)
    | none => .ok ()

def parse? (text : String) : Option Config := Toml.parse? text >>= ofEntries?

/-- Read a configuration from a file.  If there is no file, all settings have
their defaults. -/
def load (path : String) (parse? : String → Option Config := parse?) :
    Task Host.requests (Except ConfigError Config) := do
  match ← Host.readFile path with
  | .error .notFound => return .ok {}
  | .error .unreadable => return .error (.unreadable path)
  | .ok text =>
      match parse? text with
      | none => return .error (.malformed path)
      | some config =>
          match config.validate with
          | .error error => return .error error
          | .ok () => return .ok config

end Config

end CommandShell
