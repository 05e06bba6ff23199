import CommandShell.Name
import CommandShell.NameMap
import CommandShell.Token.Lexer

/-!
# Macros

A macro is a name for a text, its body.  In a line, `;name;` or `;name` stands
for the tokens of the body.  Those tokens are not searched for macros again, so
expansion goes one level deep and cannot loop.
-/

namespace CommandShell

/-- The bodies of the macros, by name. -/
abbrev MacroTable := NameMap String

namespace MacroTable

/-- Refuse a text that cannot be a name. -/
def checkName (name : String) : Except ShellError Unit :=
  if isValidName name then .ok ()
  else .error (.badUsage s!"\"{name}\" is not a valid macro name")

def add (table : MacroTable) (name body : String) :
    Except ShellError MacroTable := do
  checkName name
  if table.contains name then .error (.macroExists name)
  else .ok (table.insert name body)

/-- Define a macro, whether it was defined before or not. -/
def edit (table : MacroTable) (name body : String) :
    Except ShellError MacroTable := do
  checkName name
  .ok (table.insert name body)

/-- Remove a macro; the answer contains the body that it had. -/
def delete (table : MacroTable) (name : String) :
    Except ShellError (String × MacroTable) :=
  match table.find? name with
  | some body => .ok (body, table.erase name)
  | none => .error (.noSuchMacro name)

/-- The tokens that a reference to a macro stands for. -/
def expansion (table : MacroTable) (name : String) :
    Except ShellError (List Token) :=
  match table.find? name with
  | some body => tokenize body
  | none => .error (.undefinedMacro name)

/-- Replace each reference to a macro by the tokens of its body. -/
def expand (table : MacroTable) : List Token → Except ShellError (List Token)
  | [] => .ok []
  | .macroMarker :: .word name :: .macroMarker :: rest => do
      let body ← table.expansion name
      return body ++ (← expand table rest)
  | .macroMarker :: .word name :: rest => do
      let body ← table.expansion name
      return body ++ (← expand table rest)
  | .macroMarker :: _ => .error .danglingMacroMarker
  | token :: rest => do return token :: (← expand table rest)

/-- The macros whose bodies differ between two tables, each with its new body
or without one if it is gone: first those to store, in ascending name order,
then those to remove, in ascending name order. -/
def changes (before after : MacroTable) : List (String × Option String) :=
  (after.toList.filter fun entry => before.find? entry.1 != some entry.2).map
      (fun entry => (entry.1, some entry.2)) ++
    (before.toList.filter fun entry => (after.find? entry.1).isNone).map
      fun entry => (entry.1, none)

def applyChange (table : MacroTable) : String × Option String → MacroTable
  | (name, some body) => table.insert name body
  | (name, none) => table.erase name

/-- Add the stored macros whose names are free, in ascending name order, until
a name turns out to be invalid. -/
def adopt (table : MacroTable) :
    List (String × String) → MacroTable × Except ShellError Unit
  | [] => (table, .ok ())
  | (name, body) :: rest =>
      if table.contains name then table.adopt rest
      else
        match table.edit name body with
        | .ok extended => extended.adopt rest
        | .error error => (table, .error error)

end MacroTable

end CommandShell
