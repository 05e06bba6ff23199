/-!
# The slot of a dispatcher

The slot is where lines pass from those who prepare them to the worker that runs
them.  It has room for one pending line; a newer line replaces it.  All access to
the slot is one critical section after another, and each function here is one of
them.
-/

namespace CommandShell

inductive Activity where
  /-- Nothing is pending and nothing runs. -/
  | idle
  /-- A line waits for the worker. -/
  | primed
  /-- The worker runs a line. -/
  | executing
  deriving DecidableEq, Repr, Inhabited

/-- What the worker and its users share. -/
structure Slot where
  /-- The line that waits for the worker. -/
  pending : Option String := none
  activity : Activity := .idle
  /-- The cancellation token of the line that runs. -/
  current : Option Nat := none
  /-- Whether the worker is to stop before it takes another line. -/
  shuttingDown : Bool := false
  /-- Whether the worker has stopped. -/
  finished : Bool := false
  deriving DecidableEq, Repr, Inhabited

namespace Slot

/-- Hand over a line.  It replaces the pending one, and is dropped once the
worker has stopped. -/
def prepare (slot : Slot) (line : String) : Slot :=
  if slot.finished then slot
  else { slot with
    pending := some line
    activity := match slot.activity with
      | .idle => .primed
      | busy => busy }

/-- Start a line under a token of its own. -/
def start (slot : Slot) (token : Nat) : Slot :=
  { slot with pending := none, activity := .executing, current := some token }

/-- Record that the worker has stopped. -/
def finish (slot : Slot) : Slot :=
  { slot with
    finished := true, activity := .idle, pending := none, current := none }

/-- End the line that runs.  If it asked for the exit of the shell, the worker
stops. -/
def endStep (slot : Slot) (exit : Bool) : Slot :=
  if exit then
    ({ slot with current := none, shuttingDown := true } : Slot).finish
  else { slot with
    current := none
    activity := if slot.pending.isSome then .primed else .idle }

/-- Tell the worker to stop before it takes another line. -/
def requestShutdown (slot : Slot) : Slot :=
  { slot with shuttingDown := true }

/-- Whether no line is pending or running, which is what waiters wait for. -/
def settled (slot : Slot) : Bool :=
  slot.finished || (slot.activity == .idle && slot.pending.isNone)

end Slot

end CommandShell
