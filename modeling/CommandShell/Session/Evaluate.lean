import CommandShell.Bundle.Reader
import CommandShell.Session

/-!
# Evaluating a line

A line is split into tokens, its macro references are expanded, the command at
its head is resolved, the rest becomes a bundle, the rules of the command are
checked, and its handler runs.  Everything up to the handler is a function of
the session (`Session.read`); from there on the evaluation is a task that asks
its surroundings for cancellation, display and storage.

The handler's own requests are replied to here.  A nested call evaluates
another line one level deeper, and `maxCallDepth` levels is as deep as it goes.
-/

namespace CommandShell

/-- What a session has its surroundings present to the user. -/
inductive Presentation where
  /-- The line that is about to run. -/
  | echo (line : String)
  /-- A value, either a result or one that a handler prints. -/
  | value (value : Value)
  /-- The error with which a line ended. -/
  | report (error : ShellError)
  deriving Repr, Inhabited

/-- What came of a presentation. -/
inductive Delivery where
  | shown
  /-- It could not be shown, for the reason given. -/
  | failed (reason : String)
  /-- Showing it panicked. -/
  | panicked (text : String)
  deriving DecidableEq, Repr, Inhabited

namespace Session

/-- What a session asks of its surroundings while it runs a line. -/
inductive Signal where
  /-- Whether the step has been cancelled. -/
  | observe
  /-- Cancel the step. -/
  | cancel
  /-- Wait, unless the step is cancelled before the time is over.  The reply
  is whether it was. -/
  | pause (milliseconds : Nat)
  /-- Wait for a release, unless the step is cancelled first.  The reply is
  whether it was. -/
  | await
  /-- Present something to the user. -/
  | present (item : Presentation)
  /-- Store the new body of a macro, or its removal. -/
  | persist (name : String) (body : Option String)
  /-- Hand a line to the dispatcher. -/
  | submit (line : String)
  deriving Repr

def Signal.Reply : Signal → Type
  | .observe | .pause _ | .await => Bool
  | .cancel | .submit _ => Unit
  | .present _ => Delivery
  | .persist .. => Except String Unit

def signals : Interface := ⟨Signal, Signal.Reply⟩

def signal (signal : Signal) : Task signals signal.Reply :=
  Task.perform (I := signals) signal

def cancelled : Task signals Bool := signal .observe

/-- The deepest level of nested calls; the command of a line itself runs at
level one. -/
def maxCallDepth : Nat := 64

/-- A command that is ready to run. -/
structure Invocation where
  owner : Module
  command : Command
  bundle : Bundle

/-- The invocation that a line describes, or none if the line is blank.  Each
stage is reached only if the ones before it succeed. -/
def read (session : Session) (line : String) :
    Except ShellError (Option Invocation) := do
  let typed ← tokenize line
  let tokens ← session.macros.expand typed
  if tokens.isEmpty then return none
  let (name, rest) ← CommandName.split tokens
  let (owner, command) ← session.registry.resolve name
  let bundle ← Bundle.ofTokens session.previous rest
  checkRules command.rules bundle
  return some { owner, command, bundle }

/-- What running something in a session gives: the session afterwards, and a
result or a failure. -/
abbrev Outcome (α : Type) := Session × Except Failure α

/-- Reply to a request of a handler.  `evaluate` runs the line of a nested
call.  A failure here ends the handler: it is a panic on its way out. -/
def reply (evaluate : String → Session → Task signals (Outcome (Option Value)))
    (session : Session) :
    (request : Handler.Request) → Task signals (Outcome request.Reply)
  | .addMacro name body =>
      match session.addMacro name body with
      | .ok changed => pure (changed, .ok (.ok ()))
      | .error error => pure (session, .ok (.error error))
  | .editMacro name body =>
      match session.editMacro name body with
      | .ok changed => pure (changed, .ok (.ok ()))
      | .error error => pure (session, .ok (.error error))
  | .deleteMacro name =>
      match session.deleteMacro name with
      | .ok (body, changed) => pure (changed, .ok (.ok body))
      | .error error => pure (session, .ok (.error error))
  | .setMacros macros => pure ({ session with macros }, .ok ())
  | .listMacros => pure (session, .ok session.macros.toList)
  | .listModules =>
      pure (session, .ok (session.registry.values.map Module.info))
  | .loadLibrary library =>
      let (changed, names) := session.loadLibrary library
      pure (changed, .ok names)
  | .loadModule library name =>
      match session.loadModule library name with
      | .ok changed => pure (changed, .ok (.ok ()))
      | .error error => pure (session, .ok (.error error))
  | .unloadModule name =>
      match session.unloadModule name with
      | .ok changed => pure (changed, .ok (.ok ()))
      | .error error => pure (session, .ok (.error error))
  | .blankImage width height =>
      match session.blankImage width height with
      | .ok (image, changed) => pure (changed, .ok (.ok image))
      | .error error => pure (session, .ok (.error error))
  | .print value => do
      match ← signal (.present (.value value)) with
      | .shown => return (session, .ok (.ok ()))
      | .failed reason => return (session, .ok (.error (.other reason)))
      | .panicked text => return (session, .error (.panic text))
  | .call line => do
      match ← evaluate line session with
      | (changed, .ok value) => return (changed, .ok (.ok (value.getD .none)))
      | (changed, .error (.error error)) =>
          return (changed, .ok (.error (.nested line error)))
      | (changed, .error (.panic text)) =>
          return (changed, .error (.panic text))
  | .requestExit => pure (session.requestExit, .ok ())
  | .checkpoint => do
      return (session, .ok (unlessCancelled (← cancelled)))
  | .sleep milliseconds => do
      return (session, .ok (unlessCancelled (← signal (.pause milliseconds))))
  | .awaitRelease => do
      return (session, .ok (unlessCancelled (← signal .await)))
  | .cancelStep => do
      signal .cancel
      return (session, .ok ())
  | .submitLine line => do
      signal (.submit line)
      return (session, .ok ())
where
  /-- Refuse to go on in a step that has been cancelled. -/
  unlessCancelled (cancelled : Bool) : Except ShellError Unit :=
    if cancelled then .error .cancelled else .ok ()

/-- Run a handler in a session. -/
def runHandler
    (evaluate : String → Session → Task signals (Outcome (Option Value)))
    (session : Session) :
    Task Handler.requests (Except Failure Value) →
      Task signals (Outcome Value)
  | .done result => .done (session, result)
  | .ask request resume => do
      match ← reply evaluate session request with
      | (changed, .ok answer) => runHandler evaluate changed (resume answer)
      | (changed, .error failure) => return (changed, .error failure)

/-- Check that a command yields what it promised. -/
def checkResult (command : Command) (value : Value) :
    Except Failure (Option Value) :=
  match command.returns with
  | some expected =>
      if value.kind = expected then .ok (some value)
      else .error (.error
        (.resultTypeMismatch command.name expected value.kind))
  | none => .ok (some value)

/-- Evaluate a line with the given number of call levels left.  A blank line
has no value. -/
def evaluate : (levels : Nat) → String → Session →
    Task signals (Outcome (Option Value))
  | 0, _, session =>
      .done (session, .error (.error (.callDepthExceeded maxCallDepth)))
  | levels + 1, line, session => do
      if ← cancelled then
        return (session, .error (.error .cancelled))
      match session.read line with
      | .error error => return (session, .error (.error error))
      | .ok none => return (session, .ok none)
      | .ok (some invocation) =>
          let handler := invocation.command.handler invocation.owner.info
            invocation.bundle
          match ← runHandler (evaluate levels) session handler with
          | (changed, .ok value) =>
              return (changed, checkResult invocation.command value)
          | (changed, .error failure) => return (changed, .error failure)

end Session

end CommandShell
