import CommandShell.Session.Evaluate

/-!
# Steps

A step evaluates one line and settles what becomes of its effects.  A step that
is cancelled or whose handler panics leaves the modules and macros as they were
before it and asks for no exit; any other step, whether it ends well or with an
error, stores the macros that it changed and remembers the value it yielded.
-/

namespace CommandShell
namespace Session

/-- Store changes of macros, in order.  A change that cannot be stored stops
neither the rest nor the step. -/
def persistAll : List (String × Option String) → Task signals Unit
  | [] => .done ()
  | (name, body) :: rest => do
      let _ ← signal (.persist name body)
      persistAll rest

/-- What stands for the text of a panic that has none. -/
def unknownPanic : String := "unknown panic"

/-- The result of a step: a panic counts as an error, and a result that came
after the cancellation of the step counts for nothing. -/
def verdict : Except Failure (Option Value) →
    Task signals (Except ShellError (Option Value))
  | .ok result => do
      if ← cancelled then return .error .cancelled
      return .ok result
  | .error (.error error) => pure (.error error)
  | .error (.panic text) =>
      pure (.error (.panicked (text.getD unknownPanic)))

/-- Take back the effects of a step on modules, macros and exit. -/
def rollBack (before after : Session) : Session :=
  { after with
    registry := before.registry
    macros := before.macros
    exitRequested := false }

def remember (session : Session) : Except ShellError (Option Value) → Session
  | .ok (some value) => { session with previous := some value }
  | _ => session

/-- Run a line as a step.  A blank line is a step without a value. -/
def step (line : String) (before : Session) :
    Task signals (Session × Except ShellError (Option Value)) := do
  let (after, evaluated) ← evaluate maxCallDepth line before
  let result ← verdict evaluated
  if abort result then
    return (rollBack before after, result)
  persistAll (MacroTable.changes before.macros after.macros)
  return (after.remember result, result)
where
  /-- Whether a step with this result counts as never begun. -/
  abort : Except ShellError (Option Value) → Bool
    | .ok _ => false
    | .error error => error.isAbort

/-- Evaluate a line the way a handler calls it: the previous output stays as it
is, nothing is stored or taken back, and a blank line yields `Value.none`. -/
def call (line : String) (session : Session) :
    Task signals (Outcome Value) := do
  match ← evaluate maxCallDepth line session with
  | (after, .ok value) => return (after, .ok (value.getD .none))
  | (after, .error failure) => return (after, .error failure)

/-- Present something outside of a step, where only a panic matters. -/
def presentOutside (item : Presentation) :
    Task signals (Except Failure Unit) := do
  match ← signal (.present item) with
  | .panicked text => return .error (.panic text)
  | .shown | .failed _ => return .ok ()

/-- What shows how a line ended, if anything does. -/
def closing : Except ShellError (Option Value) → Option Presentation
  | .ok (some value) => some (.value value)
  | .ok none => none
  | .error error => some (.report error)

/-- Echo a line, run it as a step, and present how it ended.  A failure that
escapes is a panic of the display outside of the step. -/
def run (line : String) (session : Session) :
    Task signals (Session × Except Failure (Except ShellError (Option Value))) := do
  match ← presentOutside (.echo line) with
  | .error failure => return (session, .error failure)
  | .ok () =>
      let (after, result) ← step line session
      match closing result with
      | none => return (after, .ok result)
      | some item =>
          match ← presentOutside item with
          | .error failure => return (after, .error failure)
          | .ok () => return (after, .ok result)

end Session
end CommandShell
