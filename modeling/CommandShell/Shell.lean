import CommandShell.Outlets

/-!
# A shell in one thread

A shell is a session together with its outlets.  Lines run one after the other,
and while one runs, nobody but its own handlers can cancel it.
-/

namespace CommandShell

/-- The token of a step that runs in the same thread as its user: it is set or
not, and handlers can set it or not. -/
structure StepToken where
  isSet : Bool := false
  isShared : Bool := false
  deriving DecidableEq, Repr, Inhabited

/-- What a shell has around its session. -/
structure Surroundings where
  outlets : Outlets := {}
  token : StepToken := {}

namespace Surroundings

/-- Reply to a signal of the session.  Nobody else is there to cancel a wait or
to take a line, so a wait is over at once and a line that is handed over is
lost. -/
def reply : (signal : Session.Signal) → Surroundings →
    signal.Reply × Surroundings
  | .observe, around => (around.token.isSet, around)
  | .pause _, around => (around.token.isSet, around)
  | .await, around => (around.token.isSet, around)
  | .cancel, around =>
      if around.token.isShared then
        ((), { around with token := { around.token with isSet := true } })
      else ((), around)
  | .present item, around =>
      let (delivery, outlets) := around.outlets.present item
      (delivery, { around with outlets })
  | .persist name body, around =>
      let (result, outlets) := around.outlets.persist name body
      (result, { around with outlets })
  | .submit _, around => ((), around)

end Surroundings

/-- A session with its outlets. -/
structure Shell where
  session : Session
  outlets : Outlets := {}

namespace Shell

variable {α : Type}

/-- Run a task of the session under a token. -/
def runTask (shell : Shell) (token : StepToken)
    (task : Session → Task Session.signals (Session × α)) : Shell × α :=
  let ((session, result), around) :=
    Task.run (I := Session.signals) Surroundings.reply (task shell.session)
      { outlets := shell.outlets, token }
  ({ session, outlets := around.outlets }, result)

def execute (shell : Shell) (line : String) :
    Shell × Except ShellError (Option Value) :=
  shell.runTask {} (Session.step line)

/-- Evaluate a line the way a handler calls it. -/
def call (shell : Shell) (line : String) : Shell × Except Failure Value :=
  shell.runTask {} (Session.call line)

/-- Echo a line, run it as a step and show how it ended.  The handlers share
the token of the step. -/
def run (shell : Shell) (line : String) (isCancelled : Bool) :
    Shell × Except Failure (Except ShellError (Option Value)) :=
  shell.runTask { isSet := isCancelled, isShared := true } (Session.run line)

/-- Attach a store and add the macros that loading it gave.  If one of them
cannot be added, or nothing could be loaded, the store that was attached before
stays. -/
def attachStore (shell : Shell) (store : MacroStore)
    (loaded : Except String (NameMap String)) : Shell × Except String Unit :=
  match loaded with
  | .error reason => (shell, .error reason)
  | .ok stored =>
      match shell.session.adoptMacros stored with
      | (session, .error error) => ({ shell with session }, .error error.message)
      | (session, .ok ()) =>
          ({ session, outlets := { shell.outlets with store := some store } },
            .ok ())

end Shell

end CommandShell
