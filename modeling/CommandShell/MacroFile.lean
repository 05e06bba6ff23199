import CommandShell.Host
import CommandShell.MacroTable
import CommandShell.Path
import CommandShell.Toml.Reader
import CommandShell.Toml.Writer

/-!
# Macro files

A macro file keeps macros between sessions in the table `macros` of a TOML
document.  It is read anew before every change and written as a whole, so what
else it contained is lost with the first change.  A file that is not there holds
no macros.
-/

namespace CommandShell

/-- Why a macro file cannot be used. -/
inductive MacroFileError where
  | unreadable (path : String)
  | malformed (path : String)
  | noDirectory (path : String)
  | unserializable
  | unwritable (path : String)
  deriving DecidableEq, Repr, Inhabited

def MacroFileError.message : MacroFileError → String
  | .unreadable path => s!"can't read macro file {path}"
  | .malformed path => s!"can't parse macro file {path}"
  | .noDirectory path => s!"can't create {path}"
  | .unserializable => "can't serialize macros"
  | .unwritable path => s!"can't write macro file {path}"

namespace Toml

def Item.text? : Item → Option String
  | .string text => some text
  | _ => none

def Item.texts? : Item → Option (List String)
  | .array items => items.mapM Item.text?
  | _ => none

def Item.textTable? : Item → Option (NameMap String)
  | .table _ entries => do
      let texts ← entries.mapM fun (key, item) => do
        return (key, ← item.text?)
      return NameMap.ofList texts
  | _ => none

end Toml

namespace MacroFile

/-- The macros in the text of a macro file. -/
def parse? (text : String) : Option (NameMap String) := do
  let entries ← Toml.parse? text
  match entries.find? "macros" with
  | none => return ∅
  | some item => item.textTable?

def write (macros : NameMap String) : String :=
  Toml.writeTable "macros" macros.toList

end MacroFile

/-- How macros are written as a text and read from it. -/
structure MacroFormat where
  parse? : String → Option (NameMap String)
  write? : NameMap String → Option String

/-- Macros in the table `macros` of a TOML document. -/
def MacroFormat.toml : MacroFormat where
  parse? := MacroFile.parse?
  write? macros := some (MacroFile.write macros)

namespace MacroFile

def load (path : String) (format : MacroFormat := .toml) :
    Task Host.requests (Except MacroFileError (NameMap String)) := do
  if !(← Host.pathExists path) then return .ok ∅
  match ← Host.readFile path with
  | .error _ => return .error (.unreadable path)
  | .ok text =>
      match format.parse? text with
      | none => return .error (.malformed path)
      | some macros => return .ok macros

/-- Store a change of a macro in a file. -/
def persist (path name : String) (body : Option String)
    (format : MacroFormat := .toml) :
    Task Host.requests (Except MacroFileError Unit) := do
  match ← load path format with
  | .error error => return .error error
  | .ok macros =>
      let directory := (Path.parent? path).getD ""
      if !directory.isEmpty then
        if !(← Host.createDirectory directory) then
          return .error (.noDirectory directory)
      match format.write? (MacroTable.applyChange macros (name, body)) with
      | none => return .error .unserializable
      | some text =>
          if ← Host.writeFile path text then return .ok ()
          else return .error (.unwritable path)

end MacroFile

end CommandShell
