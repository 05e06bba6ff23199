import CommandShell.Proofs.Session.PreviousOutput
import CommandShell.Proofs.Session.Tracing

/-!
# The request for an exit

Handlers request the exit of the shell and so do its surroundings, and whoever feeds lines to a
session stops once the exit is requested.  A step that is taken back should leave the request
as it was before, and any other step should only add the requests of its handlers; `ExitStands`
says so.  A step that is taken back clears the request instead, so `ExitStands` fails if an exit
was requested before such a step, and only then.
-/

namespace CommandShell
namespace Session

open CommandShell.Task (Yields)

/-- A step that is taken back leaves the request for the exit as it was, and any other step adds
the requests of its handlers to it. -/
structure ExitStands (before after : Session) (requests : List Handler.Request)
    (result : Except ShellError (Option Value)) : Prop where
  kept : step.abort result = true → after.exitRequested = before.exitRequested
  added : step.abort result = false →
    (after.exitRequested = true ↔ before.exitRequested = true ∨ .requestExit ∈ requests)

/-- The request for the exit stands, unless there was one and the step is taken back.  Then it
is lost. -/
structure StandsUnlessLost (before after : Session) (requests : List Handler.Request)
    (result : Except ShellError (Option Value)) : Prop where
  stands_iff : ExitStands before after requests result ↔
    ¬ (step.abort result = true ∧ before.exitRequested = true)
  cleared : step.abort result = true → after.exitRequested = false

/-- Whether the step of a turn was taken back. -/
def Turn.aborts (turn : Turn) : Bool := turn.result?.any step.abort

/-- What becomes of the request for the exit in the steps of a session. -/
structure TracksExit (session : Session) : Prop where
  executes : ∀ line exchanges after result,
    Yields (step line session) exchanges (after, result) →
      ∃ requests, Yields (traceStep line session) exchanges (requests, after, result) ∧
        StandsUnlessLost session after requests result
  runs : ∀ line exchanges after outcome, Yields (run line session) exchanges (after, outcome) →
    (exchanges.map Sigma.fst = [.present (.echo line)] ∧ after = session ∧
      ∃ failure, outcome = .error failure) ∨
      ∃ echo ran shown requests result,
        exchanges = ⟨.present (.echo line), echo⟩ :: (ran ++ shown) ∧
        Yields (traceStep line session) ran (requests, after, result) ∧
        Yields (disclose (after, result)) shown (after, outcome) ∧
        StandsUnlessLost session after requests result
  /-- An exit that is requested stays requested exactly if the turn is not taken back. -/
  takes : ∀ turn after, session.exitRequested = true → Takes session turn after →
    (after.exitRequested = true ↔ turn.aborts = false)
  turns : ∀ turns finish, session.exitRequested = true → Turns session turns finish →
    (∀ turn ∈ turns, turn.aborts = false) → finish.exitRequested = true

variable {line : String} {before after : Session} {exchanges : List (Exchange signals)}
variable {requests : List Handler.Request} {result : Except ShellError (Option Value)}

theorem exitRequested_remember (session : Session) (result : Except ShellError (Option Value)) :
    (session.remember result).exitRequested = session.exitRequested := by
  rcases result with error | _ | value <;> rfl

/-- An exit is requested after a step that is not taken back, if it was before or a handler
requested it. -/
theorem exitRequested_iff_of_traceStep
    (traces : Yields (traceStep line before) exchanges (requests, after, result)) :
    after.exitRequested = true ↔
      step.abort result = false ∧ (before.exitRequested = true ∨ .requestExit ∈ requests) := by
  obtain ⟨during, changed, evaluated, _, _, -, evaluates, -, settled⟩ := yields_traceStep traces
  have told := (told_trace maxCallDepth line before during _ evaluates).exit
  cases settled with
  | aborts abort => simp [abort, rollBack]
  | commits commit => simp [commit, exitRequested_remember, told]

theorem standsUnlessLost_of_traceStep
    (traces : Yields (traceStep line before) exchanges (requests, after, result)) :
    StandsUnlessLost before after requests result := by
  have requested_iff := exitRequested_iff_of_traceStep traces
  have cleared : step.abort result = true → after.exitRequested = false := fun abort => by
    simpa [abort] using requested_iff
  refine ⟨⟨?_, fun notLost => ⟨fun abort => ?_, fun commit => ?_⟩⟩, cleared⟩
  · rintro stands ⟨abort, requested⟩
    have lost : after.exitRequested = before.exitRequested := stands.kept abort
    rw [requested, cleared abort] at lost
    cases lost
  · have unrequested : before.exitRequested = false :=
      Bool.eq_false_iff.2 fun requested => notLost ⟨abort, requested⟩
    rw [cleared abort, unrequested]
  · rw [requested_iff]
    exact and_iff_right commit

theorem Changes.exitRequested {assignable : MacroTable → Prop}
    (changes : Changes assignable before after)
    (requested : before.exitRequested = true) : after.exitRequested = true := by
  induction changes with
  | refl => exact requested
  | tail _ change ih => cases change <;> first | exact ih | rfl

theorem exitRequested_of_step_iff (requested : before.exitRequested = true)
    (steps : Yields (step line before) exchanges (after, result)) :
    after.exitRequested = true ↔ step.abort result = false := by
  obtain ⟨requests, traces⟩ := exists_yields_traceStep steps
  rw [exitRequested_iff_of_traceStep traces]
  exact and_iff_left (.inl requested)

theorem exitRequested_of_takes_iff {turn : Turn} (requested : before.exitRequested = true)
    (takes : Takes before turn after) : after.exitRequested = true ↔ turn.aborts = false := by
  cases takes with
  | execute steps => exact exitRequested_of_step_iff requested steps
  | run _ _ steps => exact exitRequested_of_step_iff requested steps
  | echo => exact iff_of_true requested rfl
  | stepless stepless performed =>
      refine iff_of_true ?_ rfl
      rcases changes_or_registers stepless performed with changes | ⟨_, _, -, -, rfl⟩
      · exact changes.exitRequested requested
      · exact requested

theorem exitRequested_of_turns {turns : List Turn} (requested : before.exitRequested = true)
    (took : Turns before turns after) (commit : ∀ turn ∈ turns, turn.aborts = false) :
    after.exitRequested = true := by
  induction took with
  | start => exact requested
  | next _ takes ih =>
      have earlier := ih fun turn listed => commit turn (List.mem_append_left _ listed)
      exact (exitRequested_of_takes_iff earlier takes).2 (commit _ (by simp))

/-- A step neither forges a request for the exit nor loses one, unless it is taken back after an
exit was requested. -/
theorem tracksExit (session : Session) : TracksExit session where
  executes line exchanges after result steps := by
    obtain ⟨requests, traces⟩ := exists_yields_traceStep steps
    exact ⟨requests, traces, standsUnlessLost_of_traceStep traces⟩
  runs line exchanges after outcome runs := by
    cases yields_run_iff_runs.1 runs with
    | broken => exact .inl ⟨rfl, rfl, _, rfl⟩
    | @makes echo ran shown ended result _ _ steps discloses =>
        obtain rfl : ended = after := by
          rcases yields_disclose_iff.1 discloses with ⟨-, -, ⟨⟩⟩ | ⟨_, _, -, -, ⟨⟩⟩ <;> rfl
        obtain ⟨requests, traces⟩ := exists_yields_traceStep steps
        exact .inr ⟨echo, ran, shown, requests, result, rfl, traces, discloses,
          standsUnlessLost_of_traceStep traces⟩
  takes _ _ := exitRequested_of_takes_iff
  turns _ _ := exitRequested_of_turns

/-- The exit of a new session is requested, and the line after that is cancelled before it has
begun. -/
theorem exit_lost_of_cancelled : ∃ start, Session.new ∅ = .ok start ∧
    Yields (run "wah!" start.requestExit)
      [⟨.present (.echo "wah!"), .shown⟩, ⟨.observe, true⟩,
        ⟨.present (.report .cancelled), .shown⟩] (start, .ok (.error .cancelled)) ∧
    Yields (traceStep "wah!" start.requestExit) [⟨.observe, true⟩]
      ([], start, .error .cancelled) ∧
    ¬ ExitStands start.requestExit start [] (.error .cancelled) := by
  refine ⟨_, rfl, .ask (.ask (.ask (.refl _))), .ask (.refl _), fun stands => ?_⟩
  cases stands.kept rfl

end Session
end CommandShell
