import CommandShell.Proofs.Dispatcher.HandOff
import CommandShell.Shell

/-!
# Running the lines of a log again

While a line runs, others prepare lines and interrupt it.  The log tells when each
interrupt reached it: after how many replies to its signals.  With that, the line
can be run again in one thread (`Shell.runUnder`), and `replay` does so with all
lines that were taken, one after the other.  `Tracks` says that a line which still
runs has come as far as its replay, whatever interrupts are still to come.
-/

namespace CommandShell

namespace Task

theorem run_view {I : Interface} {α σ τ : Type} (view : τ → σ)
    {reply : (request : I.Request) → σ → I.Reply request × σ}
    {detailed : (request : I.Request) → τ → I.Reply request × τ}
    (sameAnswer : ∀ request state,
      (detailed request state).1 = (reply request (view state)).1)
    (sameState : ∀ request state,
      view (detailed request state).2 = (reply request (view state)).2)
    (task : Task I α) (state : τ) :
    (run detailed task state).1 = (run reply task (view state)).1 ∧
      view (run detailed task state).2 = (run reply task (view state)).2 := by
  induction task generalizing state with
  | done value => exact ⟨rfl, rfl⟩
  | ask request resume ih =>
      rw [run_ask, run_ask, ← sameAnswer, ← sameState]
      exact ih _ _

end Task

namespace Surroundings

/-- Reply to a signal after so many others.  Each interrupt sets the token when as
many replies have been given as it says. -/
def replyUnder (interrupts : List Nat) (signal : Session.Signal)
    (state : Surroundings × Nat) : signal.Reply × Surroundings × Nat :=
  let (around, replies) := state
  let isSet := around.token.isSet || interrupts.contains replies
  let (answer, after) :=
    reply signal { around with token := { around.token with isSet } }
  (answer, after, replies + 1)

end Surroundings

namespace Shell

/-- Echo a line, run it as a step and show how it ended, while it is interrupted
from outside. -/
def runUnder (shell : Shell) (line : String) (interrupts : List Nat) :
    Shell × Except Failure (Except ShellError (Option Value)) :=
  let ((session, result), around, _) :=
    Task.run (I := Session.signals) (Surroundings.replyUnder interrupts)
      (Session.run line shell.session)
      ({ outlets := shell.outlets, token := { isShared := true } }, 0)
  ({ session, outlets := around.outlets }, result)

/-- A line that nobody interrupts runs as it does in one thread. -/
theorem runUnder_nil (shell : Shell) (line : String) :
    shell.runUnder line [] = shell.run line false := by
  have counts : ∀ (signal : Session.Signal) (state : Surroundings × Nat),
      Surroundings.replyUnder [] signal state =
        ((Surroundings.reply signal state.1).1,
          (Surroundings.reply signal state.1).2, state.2 + 1) := by
    intro signal state
    simp [Surroundings.replyUnder]
  obtain ⟨result, around⟩ := Task.run_view (I := Session.signals) Prod.fst
    (fun signal state => congrArg Prod.fst (counts signal state))
    (fun signal state => congrArg (fun reply => reply.2.1) (counts signal state))
    (Session.run line shell.session)
    ({ outlets := shell.outlets, token := { isShared := true } }, 0)
  exact congrArg₂ (fun result (around : Surroundings) =>
    (Shell.mk result.1 around.outlets, result.2)) result around

end Shell

namespace Dispatcher

/-- A line that the worker took, with the number of its signals that have got replies
and, for each interrupt that reached it, how many had got replies before. -/
structure Job where
  line : String
  token : Nat
  replies : Nat := 0
  interrupts : List Nat := []

/-- The lines that the worker took, in order. -/
structure Progress where
  past : List Job := []
  current : Option Job := none

namespace Progress

def next (progress : Progress) : Event → Progress
  | .taken line token =>
      { past := progress.past ++ progress.current.toList
        current := some { line, token } }
  | .replied _ =>
      { progress with current := progress.current.map fun job =>
          { job with replies := job.replies + 1 } }
  | .interrupted =>
      { progress with current := progress.current.map fun job =>
          { job with interrupts := job.interrupts ++ [job.replies] } }
  | .ended =>
      { past := progress.past ++ progress.current.toList, current := none }
  | .prepared _ | .finished => progress

def ofLog (log : List Event) : Progress :=
  log.foldl next {}

def jobs (progress : Progress) : List Job :=
  progress.past ++ progress.current.toList

theorem ofLog_append (log events : List Event) :
    ofLog (log ++ events) = events.foldl next (ofLog log) :=
  List.foldl_append

end Progress

/-- The jobs of a log are exactly the lines that were taken. -/
theorem jobs_ofLog (log : List Event) :
    (Progress.ofLog log).jobs.map (fun job => (job.line, job.token)) =
      log.filterMap Event.taken? := by
  induction log using List.reverseRecOn with
  | nil => rfl
  | append_singleton log event ih =>
      rw [Progress.ofLog_append, List.filterMap_append, ← ih]
      cases event <;> cases currentEq : (Progress.ofLog log).current <;>
        simp [Progress.next, Progress.jobs, Event.taken?, currentEq]

/-- Run jobs one after the other, each under the interrupts that reached it. -/
def replay (start : Shell) (jobs : List Job) : Shell :=
  jobs.foldl (fun shell job => (shell.runUnder job.line job.interrupts).1) start

abbrev around (outlets : Outlets) (isSet : Bool) : Surroundings where
  outlets := outlets
  token := { isSet, isShared := true }

/-- A job that others may still interrupt has come to the rest of its line: whatever
interrupts are still to come, running the line again comes to the same point. -/
structure Tracks (start : Shell) (job : Job) (outlets : Outlets) (isSet : Bool)
    (rest : RunningLine) : Prop where
  past : ∀ place ∈ job.interrupts, place ≤ job.replies
  comes : ∃ wasSet, (wasSet || job.interrupts.contains job.replies) = isSet ∧
    ∀ later : List Nat, (∀ place ∈ later, job.replies ≤ place) →
      Task.run (I := Session.signals)
        (Surroundings.replyUnder (job.interrupts ++ later))
        (Session.run job.line start.session) (around start.outlets false, 0) =
      Task.run (I := Session.signals)
        (Surroundings.replyUnder (job.interrupts ++ later))
        rest (around outlets wasSet, job.replies)

namespace Tracks

variable {start : Shell} {job : Job} {outlets : Outlets} {isSet : Bool}
variable {rest : RunningLine}

theorem begin (start : Shell) (line : String) (token : Nat) :
    Tracks start { line, token } start.outlets false
      (Session.run line start.session) :=
  ⟨nofun, false, rfl, fun _ _ => rfl⟩

theorem interrupt (tracks : Tracks start job outlets isSet rest) :
    Tracks start { job with interrupts := job.interrupts ++ [job.replies] }
      outlets true rest := by
  obtain ⟨past, wasSet, -, comes⟩ := tracks
  refine ⟨?_, wasSet, by simp, ?_⟩
  · intro place member
    rcases List.mem_append.1 member with member | member
    · exact past place member
    · exact Nat.le_of_eq (List.mem_singleton.1 member)
  · -- the interrupt is one of those that were still to come
    intro later ahead
    rw [List.append_assoc]
    refine comes ([job.replies] ++ later) fun place member => ?_
    rcases List.mem_append.1 member with member | member
    · exact Nat.le_of_eq (List.mem_singleton.1 member).symm
    · exact ahead place member

theorem reply {signal : Session.Signal} {resume : signal.Reply → RunningLine}
    {answer : signal.Reply} {outlets' : Outlets} {isSet' : Bool}
    (tracks : Tracks start job outlets isSet (.ask signal resume))
    (replied : Surroundings.reply signal (around outlets isSet) =
      (answer, around outlets' isSet')) :
    Tracks start { job with replies := job.replies + 1 } outlets' isSet'
      (resume answer) := by
  obtain ⟨past, wasSet, setEq, comes⟩ := tracks
  have notYet : job.replies + 1 ∉ job.interrupts := by
    intro member
    have bound := past _ member
    omega
  refine ⟨fun place member => ?_, isSet', by simp [notYet], ?_⟩
  · have bound := past place member
    dsimp only
    omega
  · -- an interrupt that is still to come finds this signal replied to
    intro later ahead
    have notLater : job.replies ∉ later := by
      intro member
      have bound := ahead _ member
      dsimp only at bound
      omega
    have bounds : ∀ place ∈ later, job.replies ≤ place := by
      intro place member
      have bound := ahead place member
      dsimp only at bound
      omega
    have step : Surroundings.replyUnder (job.interrupts ++ later) signal
        (around outlets wasSet, job.replies) =
          (answer, around outlets' isSet', job.replies + 1) := by
      have setEq' : (wasSet || (job.interrupts ++ later).contains job.replies) =
          isSet := by
        rw [← setEq]
        simp [notLater]
      unfold Surroundings.replyUnder
      dsimp only
      rw [setEq']
      exact congrArg (fun reply => (reply.1, reply.2, job.replies + 1)) replied
    refine (comes later bounds).trans ?_
    refine (Task.run_ask (I := Session.signals) _ signal resume _).trans ?_
    exact congrArg (fun reply : signal.Reply × Surroundings × Nat =>
      Task.run (I := Session.signals)
        (Surroundings.replyUnder (job.interrupts ++ later))
        (resume reply.1) reply.2) step

theorem runUnder_eq {session : Session}
    {result : Except Failure (Except ShellError (Option Value))}
    (tracks : Tracks start job outlets isSet (.done (session, result))) :
    start.runUnder job.line job.interrupts =
      ({ session, outlets }, result) := by
  obtain ⟨-, wasSet, -, comes⟩ := tracks
  have ended := comes [] nofun
  rw [List.append_nil] at ended
  exact congrArg (fun run : (Session × _) × Surroundings × Nat =>
    (Shell.mk run.1.1 run.2.1.outlets, run.1.2)) ended

end Tracks

@[simp]
theorem prepare_outlets (dispatcher : Dispatcher) (line : String) :
    (dispatcher.prepare line).outlets = dispatcher.outlets := by
  unfold prepare
  split <;> rfl

theorem isSet_issue (tokens : Tokens) :
    tokens.issue.2.isSet tokens.issue.1 = false := by
  simp [Tokens.issue, Tokens.isSet]

theorem isSet_cancel {tokens : Tokens} {token : Nat}
    (issued : token < tokens.flags.length) :
    (tokens.cancel token).isSet token = true := by
  simp [Tokens.cancel, Tokens.isSet, issued]

variable {before after : Dispatcher}

/-- The dispatcher replies to the line that runs as one thread does with a token of
its own. -/
theorem reply_of_reply? {token : Nat} {signal : Session.Signal}
    {answer : signal.Reply} (current : before.slot.current = some token)
    (issued : token < before.tokens.flags.length)
    (reply : before.reply? token signal = some (answer, after)) :
    Surroundings.reply signal
        (around before.outlets (before.tokens.isSet token)) =
      (answer, around after.outlets (after.tokens.isSet token)) := by
  cases signal with
  | observe => cases reply; rfl
  | pause milliseconds => cases reply; rfl
  | await =>
      rw [reply?] at reply
      split at reply
      · next set =>
          cases reply
          rw [Surroundings.reply, set]
      · next unset =>
          split at reply
          · cases reply
          · cases reply
            rw [Surroundings.reply, Bool.eq_false_iff.2 unset]
  | cancel =>
      cases reply
      unfold Dispatcher.interrupt
      rw [current]
      dsimp only
      rw [isSet_cancel issued]
      rfl
  | present item => cases reply; rfl
  | persist name body => cases reply; rfl
  | submit line =>
      cases reply
      rw [prepare_tokens, prepare_outlets]
      rfl

end Dispatcher
end CommandShell
