import CommandShell.Proofs.Dispatcher.Replay

/-!
# What the worker makes of its lines

`Follows` says that the worker and the outlets are where the replay of the log is, in
the middle of a line as well as between lines, and every transition keeps that.  The
session that a worker leaves is therefore the one that the replay ends with, whatever
others did meanwhile.
-/

namespace CommandShell
namespace Dispatcher

variable {before after : Dispatcher}

/-- Worker and outlets are where the replay of the lines that were taken is. -/
def Follows (start : Shell) (progress : Progress) (outlets : Outlets)
    (tokens : Tokens) : Worker → Prop
  | .absent session | .awake session | .asleep session
  | .leaving (some session) | .stopped (some session) =>
      progress.current = none ∧
        replay start progress.past = { session, outlets }
  | .running _ token rest =>
      ∃ job, progress.current = some job ∧ token < tokens.flags.length ∧
        Tracks (replay start progress.past) job outlets (tokens.isSet token) rest
  | .leaving none | .stopped none | .joined => True

namespace Follows

variable {start : Shell} {progress : Progress} {outlets : Outlets}
variable {tokens : Tokens} {worker : Worker} {log events : List Event}

theorem notify (follows : Follows start progress outlets tokens worker) :
    Follows start progress outlets tokens worker.notify := by
  cases worker <;> exact follows

theorem prepare (follows : Follows start progress before.outlets before.tokens
    before.worker) (line : String) :
    Follows start progress (before.prepare line).outlets
      (before.prepare line).tokens (before.prepare line).worker := by
  rw [prepare_outlets, prepare_tokens]
  unfold Dispatcher.prepare
  split
  · exact follows
  · exact follows.notify

theorem interrupt (follows : Follows start progress before.outlets before.tokens
    before.worker) (coherent : before.Coherent) :
    Follows start (progress.next .interrupted) before.interrupt.outlets
      before.interrupt.tokens before.interrupt.worker := by
  have outletsEq : before.interrupt.outlets = before.outlets := by
    unfold Dispatcher.interrupt
    split <;> rfl
  have agrees := coherent.agrees
  rw [interrupt_worker, outletsEq]
  cases workerEq : before.worker with
  | running line token rest =>
      rw [workerEq] at follows agrees
      obtain ⟨job, currentEq, issued, tracks⟩ := follows
      have tokensEq : before.interrupt.tokens = before.tokens.cancel token := by
        rw [Dispatcher.interrupt, agrees.2]
      rw [tokensEq]
      refine ⟨{ job with interrupts := job.interrupts ++ [job.replies] },
        by rw [Progress.next, currentEq]; rfl, ?_, ?_⟩
      · rw [Tokens.cancel, List.length_set]
        exact issued
      · rw [isSet_cancel issued]
        exact tracks.interrupt
  | leaving session | stopped session =>
      rw [workerEq] at follows
      cases session with
      | none => trivial
      | some session =>
          refine ⟨?_, follows.2⟩
          rw [Progress.next, follows.1]
          rfl
  | joined => trivial
  | absent session | awake session | asleep session =>
      rw [workerEq] at follows
      refine ⟨?_, follows.2⟩
      rw [Progress.next, follows.1]
      rfl

theorem ended {line : String} {token : Nat} {session : Session}
    {result : Except ShellError (Option Value)}
    (follows : Follows start progress outlets tokens
      (.running line token (.done (session, .ok result)))) :
    replay start (progress.next .ended).past = { session, outlets } := by
  obtain ⟨job, currentEq, -, tracks⟩ := follows
  rw [Progress.next, currentEq]
  dsimp only
  rw [Option.toList, replay, List.foldl_append]
  exact congrArg Prod.fst tracks.runUnder_eq

theorem transition (follows : Follows start (Progress.ofLog log) before.outlets
    before.tokens before.worker) (coherent : before.Coherent)
    (happened : Transition before events after) :
    Follows start (Progress.ofLog (log ++ events)) after.outlets after.tokens
      after.worker := by
  rw [Progress.ofLog_append]
  have agrees := coherent.agrees
  cases happened with
  | prepares line => exact follows.prepare line
  | interrupts => exact follows.interrupt coherent
  | shutsDown => exact follows.notify
  | attends => exact follows
  | begins rests | leaves rests | sleeps rests =>
      rw [rests] at follows
      exact follows
  | joins => trivial
  | @takes session line awake =>
      rw [awake] at follows
      obtain ⟨currentEq, replayEq⟩ := follows
      refine ⟨{ line, token := before.tokens.issue.1 }, rfl, ?_, ?_⟩
      · simp [Tokens.issue]
      · dsimp only
        rw [isSet_issue, List.foldl_cons, List.foldl_nil, Progress.next, currentEq]
        dsimp only
        rw [Option.toList, List.append_nil, replayEq]
        exact .begin { session, outlets := before.outlets } line _
  | replies running reply =>
      rw [running] at follows agrees
      obtain ⟨job, currentEq, issued, tracks⟩ := follows
      refine ⟨{ job with replies := job.replies + 1 }, ?_, ?_, ?_⟩
      · rw [List.foldl_cons, List.foldl_nil, Progress.next, currentEq]
        rfl
      · dsimp only
        rw [issued_of_reply? reply]
        exact issued
      · have replyEq := reply_of_reply? agrees.2 issued reply
        exact tracks.reply replyEq
  | @submits _ submitted _ _ running =>
      rw [running] at follows
      obtain ⟨job, currentEq, issued, tracks⟩ := follows
      refine ⟨{ job with replies := job.replies + 1 }, ?_, ?_, ?_⟩
      · rw [List.foldl_cons, List.foldl_cons, List.foldl_nil, Progress.next,
          Progress.next, currentEq]
        rfl
      · dsimp only
        rw [prepare_tokens]
        exact issued
      · dsimp only
        rw [prepare_tokens, prepare_outlets]
        exact tracks.reply rfl
  | ends running stays =>
      rw [running] at follows
      have replayEq := follows.ended
      rw [endStep, stays]
      exact ⟨rfl, replayEq⟩
  | exits running exit =>
      rw [running] at follows
      have replayEq := follows.ended
      rw [endStep, exit]
      exact ⟨rfl, replayEq⟩
  | unwinds => trivial
  | @finishes session leaving =>
      rw [leaving] at follows
      cases session with
      | none => trivial
      | some session => exact follows

end Follows

structure Recorded (start : Shell) (log : List Event) (dispatcher : Dispatcher) :
    Prop where
  coherent : dispatcher.Coherent
  standing : Standing log dispatcher.slot.pending dispatcher.slot.finished
  taken : Taken log dispatcher.tokens.flags.length dispatcher.worker.isRunning
  follows : Follows start (Progress.ofLog log) dispatcher.outlets
    dispatcher.tokens dispatcher.worker

theorem Recorded.new (session : Session) (display : Display)
    (store : Option MacroStore) :
    Recorded { session, outlets := { display, store } } []
      (Dispatcher.new session display store) where
  coherent := .new session display store
  standing := .new
  taken := .new
  follows := ⟨rfl, rfl⟩

theorem Recorded.history {start : Shell} {log : List Event}
    (recorded : Recorded start [] before) (happened : History before log after) :
    Recorded start log after := by
  induction happened with
  | refl => exact recorded
  | snoc _ last ih =>
      exact ⟨ih.coherent.transition last, ih.standing.transition last,
        ih.taken.transition last, ih.follows.transition ih.coherent last⟩

/-- Lines are handed over without loss, and the session that the worker leaves is
the one that the lines which it took make of the first session, one after the other
and each under the interrupts that reached it. -/
theorem handedOff_of_moves? {session : Session} {display : Display}
    {store : Option MacroStore} {moves : List Move} {reached : Dispatcher}
    (moved : (Dispatcher.new session display store).moves? moves = some reached) :
    HandedOff ((Dispatcher.new session display store).log moves) reached.slot ∧
      (Progress.ofLog
            ((Dispatcher.new session display store).log moves)).jobs.map
          (fun job => (job.line, job.token)) =
        ((Dispatcher.new session display store).log moves).filterMap
          Event.taken? ∧
      ∀ returned joined, reached.join? = some (some returned, joined) →
        replay { session, outlets := { display, store } }
            (Progress.ofLog
              ((Dispatcher.new session display store).log moves)).jobs =
          { session := returned, outlets := reached.outlets } := by
  have recorded :=
    (Recorded.new session display store).history (history_of_moves? moved)
  refine ⟨handedOff recorded.standing recorded.taken, jobs_ofLog _, ?_⟩
  intro returned joined joins
  have follows := recorded.follows
  unfold join? at joins
  split at joins
  · next stopped _ =>
      cases joins
      rw [stopped] at follows
      obtain ⟨currentEq, replayEq⟩ := follows
      rw [Progress.jobs, currentEq, Option.toList, List.append_nil]
      exact replayEq
  · cases joins

/-- The worker takes `a`, which is interrupted before its echo, then `c`, which has
replaced `b`, and `d` comes too late. -/
def rush : List Move :=
  [.begin, .prepare "a", .work, .prepare "b", .interrupt, .prepare "c"] ++
    .replicate 9 .work ++
    [.requestShutdown, .prepare "d", .work, .work, .reserve]

def narrowDisplay : Display where
  take := .ofState 2 fun _ room =>
    (if room = 0 then .failed "no room" else .shown, room - 1)

theorem handedOff_of_rush :
    ∃ reached returned joined,
      (Dispatcher.new { registry := ∅ } narrowDisplay (some {})).moves? rush =
        some reached ∧
      reached.join? = some (some returned, joined) ∧
      (Progress.ofLog ((Dispatcher.new { registry := ∅ } narrowDisplay
          (some {})).log rush)).jobs.map
        (fun job => (job.line, job.interrupts)) = [("a", [0]), ("c", [])] ∧
      HandedOff ((Dispatcher.new { registry := ∅ } narrowDisplay
        (some {})).log rush) reached.slot ∧
      reached.outlets.display.seen.length = 4 ∧
      reached.outlets.display.shown.length = 2 ∧
      replay { session := { registry := ∅ }
               outlets := { display := narrowDisplay, store := some {} } }
          (Progress.ofLog ((Dispatcher.new { registry := ∅ } narrowDisplay
            (some {})).log rush)).jobs =
        { session := returned, outlets := reached.outlets } := by
  have leavesSession : (((Dispatcher.new { registry := ∅ } narrowDisplay
      (some {})).moves? rush).bind fun reached =>
        reached.join?.bind fun (returned, _) => returned.map fun _ =>
          (reached.outlets.display.seen.length,
            reached.outlets.display.shown.length)) = some (4, 2) := by
    decide +kernel
  obtain ⟨reached, moved, found⟩ := Option.bind_eq_some_iff.1 leavesSession
  obtain ⟨⟨_, joined⟩, joins, found⟩ := Option.bind_eq_some_iff.1 found
  obtain ⟨returned, rfl, counts⟩ := Option.map_eq_some_iff.1 found
  obtain ⟨seen, shown⟩ := Prod.mk.inj counts
  obtain ⟨handedOff, -, replays⟩ := handedOff_of_moves? moved
  exact ⟨reached, returned, joined, moved, joins, by decide +kernel, handedOff,
    seen, shown, replays returned joined joins⟩

end Dispatcher
end CommandShell
