import CommandShell.Cancellation
import CommandShell.Dispatcher.Slot
import CommandShell.Outlets

/-!
# Dispatchers

A dispatcher has one worker that runs lines one at a time while others prepare
lines, interrupt the line that runs, wait until nothing is left to do, or shut
the worker down.  Everything that happens is a `Move`: one critical section, or
one signal of the line that runs.  Any order of moves may happen, so what holds
after all sequences of moves holds of all interleavings.

Two wait sets are part of the state: the worker sleeps while there is nothing to
take, and waiters sleep while the slot is not settled.  Whoever sleeps stays
asleep until a notification wakes it.
-/

namespace CommandShell

/-- A line that runs: its result is there, or it goes on after a signal. -/
abbrev RunningLine := Task Session.signals
  (Session × Except Failure (Except ShellError (Option Value)))

/-- Where the worker of a dispatcher is. -/
inductive Worker where
  /-- It has not been started; the session is kept for it. -/
  | absent (session : Session)
  /-- It is about to look at the slot. -/
  | awake (session : Session)
  /-- It sleeps until it is notified. -/
  | asleep (session : Session)
  /-- It runs a line. -/
  | running (line : String) (token : Nat) (rest : RunningLine)
  /-- It has left its loop, with the session unless a panic was the reason. -/
  | leaving (session : Option Session)
  /-- It has stopped. -/
  | stopped (session : Option Session)
  /-- It has stopped, and what it left has been collected. -/
  | joined

namespace Worker

def notify : Worker → Worker
  | .asleep session => .awake session
  | worker => worker

end Worker

/-- Those who wait until the slot is settled. -/
structure Waiters where
  /-- Those who sleep until they are notified. -/
  asleep : List Nat := []
  /-- Those who have been notified and are about to look at the slot. -/
  awake : List Nat := []
  deriving DecidableEq, Repr, Inhabited

namespace Waiters

def notifyAll (waiters : Waiters) : Waiters where
  asleep := []
  awake := waiters.awake ++ waiters.asleep

/-- Let a waiter look at the slot: it is done if the slot is settled, and
sleeps otherwise. -/
def look (waiters : Waiters) (waiter : Nat) (settled : Bool) : Waiters :=
  if settled then waiters
  else { waiters with asleep := waiter :: waiters.asleep }

end Waiters

/-- A worker with everything it shares with others. -/
structure Dispatcher where
  worker : Worker
  slot : Slot := {}
  /-- The cancellation tokens of all lines that were taken. -/
  tokens : Tokens := {}
  waiters : Waiters := {}
  outlets : Outlets := {}
  /-- The releases that no line has consumed yet. -/
  releases : Nat := 0
  /-- Whether somebody has the right to collect what the worker leaves. -/
  reserved : Bool := false

namespace Dispatcher

/-- A dispatcher whose worker has not been started. -/
def new (session : Session) (display : Display)
    (store : Option MacroStore := none) : Dispatcher where
  worker := .absent session
  outlets := { display, store }

/-- Start the worker.  It is started at most once. -/
def begin? (dispatcher : Dispatcher) : Option Dispatcher :=
  match dispatcher.worker with
  | .absent session => some { dispatcher with worker := .awake session }
  | _ => none

/-- Hand over a line and wake the worker. -/
def prepare (dispatcher : Dispatcher) (line : String) : Dispatcher :=
  if dispatcher.slot.finished then dispatcher
  else { dispatcher with
    slot := dispatcher.slot.prepare line
    worker := dispatcher.worker.notify }

/-- Cancel the line that runs, if any. -/
def interrupt (dispatcher : Dispatcher) : Dispatcher :=
  match dispatcher.slot.current with
  | some token =>
      { dispatcher with tokens := dispatcher.tokens.cancel token }
  | none => dispatcher

def release (dispatcher : Dispatcher) : Dispatcher :=
  { dispatcher with releases := dispatcher.releases + 1 }

/-- Tell the worker to stop and wake it. -/
def requestShutdown (dispatcher : Dispatcher) : Dispatcher :=
  { dispatcher with
    slot := dispatcher.slot.requestShutdown
    worker := dispatcher.worker.notify }

/-- Reserve the right to collect what the worker leaves.  Only the first try
after the start of the worker succeeds. -/
def reserve? (dispatcher : Dispatcher) : Option Dispatcher :=
  match dispatcher.worker with
  | .absent _ => none
  | _ =>
      if dispatcher.reserved then none
      else some { dispatcher with reserved := true }

/-- Collect what a worker that has stopped leaves: its session, unless a panic
ended it. -/
def join? (dispatcher : Dispatcher) : Option (Option Session × Dispatcher) :=
  match dispatcher.worker, dispatcher.reserved with
  | .stopped session, true =>
      some (session, { dispatcher with worker := .joined })
  | _, _ => none

/-- Reply to a signal of the line that runs under a token.  There is no reply
yet if the line awaits a release that has not come. -/
def reply? (dispatcher : Dispatcher) (token : Nat) :
    (signal : Session.Signal) → Option (signal.Reply × Dispatcher)
  | .observe => some (dispatcher.tokens.isSet token, dispatcher)
  | .pause _ => some (dispatcher.tokens.isSet token, dispatcher)
  | .await =>
      if dispatcher.tokens.isSet token then some (true, dispatcher)
      else match dispatcher.releases with
        | 0 => none
        | left + 1 => some (false, { dispatcher with releases := left })
  | .cancel => some ((), dispatcher.interrupt)
  | .present item =>
      let (delivery, outlets) := dispatcher.outlets.present item
      some (delivery, { dispatcher with outlets })
  | .persist name body =>
      let (result, outlets) := dispatcher.outlets.persist name body
      some (result, { dispatcher with outlets })
  | .submit line => some ((), dispatcher.prepare line)

/-- Let the worker look at the slot: it leaves if it is to stop, takes the
pending line if there is one, and sleeps otherwise. -/
def look (dispatcher : Dispatcher) (session : Session) : Dispatcher :=
  if dispatcher.slot.shuttingDown then
    { dispatcher with worker := .leaving (some session) }
  else match dispatcher.slot.pending with
    | none => { dispatcher with worker := .asleep session }
    | some line =>
        let (token, tokens) := dispatcher.tokens.issue
        { dispatcher with
          tokens
          slot := dispatcher.slot.start token
          worker := .running line token (Session.run line session) }

/-- End the line that runs, which left the session behind. -/
def endStep (dispatcher : Dispatcher) (session : Session) : Dispatcher :=
  { dispatcher with
    slot := dispatcher.slot.endStep session.exitRequested
    waiters := dispatcher.waiters.notifyAll
    worker :=
      if session.exitRequested then .leaving (some session)
      else .awake session }

/-- Stop the worker, which has left its loop. -/
def finish (dispatcher : Dispatcher) (session : Option Session) : Dispatcher :=
  { dispatcher with
    slot := dispatcher.slot.finish
    waiters := dispatcher.waiters.notifyAll
    worker := .stopped session }

/-- The next move of the worker, if it can move. -/
def work? (dispatcher : Dispatcher) : Option Dispatcher :=
  match dispatcher.worker with
  | .awake session => some (dispatcher.look session)
  | .running line token (.ask signal resume) => do
      let (answer, dispatcher) ← dispatcher.reply? token signal
      return { dispatcher with worker := .running line token (resume answer) }
  | .running _ _ (.done (session, .ok _)) => some (dispatcher.endStep session)
  | .running _ _ (.done (_, .error _)) =>
      some { dispatcher with worker := .leaving none }
  | .leaving session => some (dispatcher.finish session)
  | .absent _ | .asleep _ | .stopped _ | .joined => none

def wait (dispatcher : Dispatcher) (waiter : Nat) : Dispatcher :=
  { dispatcher with
    waiters := dispatcher.waiters.look waiter dispatcher.slot.settled }

/-- Let a waiter that was notified look at the slot again. -/
def recheck? (dispatcher : Dispatcher) (waiter : Nat) : Option Dispatcher :=
  if waiter ∈ dispatcher.waiters.awake then
    let waiters := { dispatcher.waiters with
      awake := dispatcher.waiters.awake.erase waiter }
    some { dispatcher with
      waiters := waiters.look waiter dispatcher.slot.settled }
  else none

/-- Let a waiter that sleeps give up because its time is over. -/
def giveUp? (dispatcher : Dispatcher) (waiter : Nat) : Option Dispatcher :=
  if waiter ∈ dispatcher.waiters.asleep then
    some { dispatcher with
      waiters := { dispatcher.waiters with
        asleep := dispatcher.waiters.asleep.erase waiter } }
  else none

/-- What can happen to a dispatcher. -/
inductive Move where
  | begin
  | prepare (line : String)
  | interrupt
  | release
  | requestShutdown
  | reserve
  | join
  | work
  | wait (waiter : Nat)
  | recheck (waiter : Nat)
  | giveUp (waiter : Nat)
  deriving DecidableEq, Repr

/-- The dispatcher after a move, if the move can happen. -/
def move? (dispatcher : Dispatcher) : Move → Option Dispatcher
  | .begin => dispatcher.begin?
  | .prepare line => some (dispatcher.prepare line)
  | .interrupt => some dispatcher.interrupt
  | .release => some dispatcher.release
  | .requestShutdown => some dispatcher.requestShutdown
  | .reserve => dispatcher.reserve?
  | .join => dispatcher.join?.map (·.2)
  | .work => dispatcher.work?
  | .wait waiter => some (dispatcher.wait waiter)
  | .recheck waiter => dispatcher.recheck? waiter
  | .giveUp waiter => dispatcher.giveUp? waiter

def moves? (dispatcher : Dispatcher) (moves : List Move) : Option Dispatcher :=
  moves.foldlM move? dispatcher

/-- Let the worker move until it cannot, for at most `fuel` moves. -/
def settle : (fuel : Nat) → Dispatcher → Dispatcher
  | 0, dispatcher => dispatcher
  | fuel + 1, dispatcher =>
      match dispatcher.work? with
      | none => dispatcher
      | some moved => settle fuel moved

/-- Shut the worker down and collect the session that it leaves.  There is none
if the worker was never started, if it was collected before, if a panic ended
it, or if it did not stop within `fuel` moves. -/
def shutdown (fuel : Nat) (dispatcher : Dispatcher) :
    Option Session × Dispatcher :=
  let dispatcher := dispatcher.requestShutdown
  match dispatcher.reserve? with
  | none => (none, dispatcher)
  | some reserved =>
      let settled := settle fuel reserved
      match settled.join? with
      | none => (none, settled)
      | some (session, joined) => (session, joined)

end Dispatcher

end CommandShell
