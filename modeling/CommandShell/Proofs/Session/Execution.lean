import CommandShell.Proofs.Session.Interruption
import CommandShell.Proofs.Session.Pipeline

/-!
# Lines with one outcome

The surroundings can cancel a step at any time, and what a handler shows can go wrong.
If they leave the step alone, a line that is not read, or whose handler asks nothing of
them, has one outcome: `Executes` says that there is such a step and that every such step
ends so.
-/

namespace CommandShell
namespace Session

open CommandShell.Task (Yields yields_ask_iff yields_bind_iff yields_done_iff)

/-- The token of the step is not set in the course of a conversation. -/
def Uncancelled (exchanges : List (Exchange signals)) : Prop :=
  ∀ exchange ∈ exchanges, Truthful false exchange

/-- Unless it is cancelled, the step of a line takes a session to another one and ends with a
result. -/
structure Executes (line : String) (before after : Session)
    (result : Except ShellError (Option Value)) : Prop where
  some : ∃ exchanges, Uncancelled exchanges ∧ Yields (step line before) exchanges (after, result)
  every : ∀ exchanges outcome, Uncancelled exchanges → Yields (step line before) exchanges outcome →
    outcome = (after, result)

variable {line : String} {before changed after : Session} {value : Value} {error : ShellError}

theorem exists_yields_persistAll (changes : List (String × Option String)) :
    ∃ exchanges, Uncancelled exchanges ∧ Yields (persistAll changes) exchanges () := by
  induction changes with
  | nil => exact ⟨[], nofun, .refl _⟩
  | cons change changes ih =>
      obtain ⟨exchanges, uncancelled, persists⟩ := ih
      refine ⟨⟨.persist change.1 change.2, .ok ()⟩ :: exchanges, ?_, .ask persists⟩
      exact List.forall_mem_cons.2 ⟨trivial, uncancelled⟩

/-- A handler goes on with the reply to its first request. -/
theorem runHandler_ask {evaluate : String → Session → Task signals (Outcome (Option Value))}
    {request : Handler.requests.Request} {answer : Handler.requests.Reply request}
    {resume : Handler.requests.Reply request → Task Handler.requests (Except Failure Value)}
    (replied : reply evaluate before request = .done (changed, .ok answer)) :
    runHandler evaluate before (.ask request resume) =
      runHandler evaluate changed (resume answer) := by
  rw [runHandler]
  exact congrArg (· >>= _) replied

/-- A line that is not read fails. -/
theorem executes_of_read_error (fails : before.read line = .error error) :
    Executes line before before (.error error) where
  some := by
    refine ⟨[⟨.observe, false⟩], List.forall_mem_singleton.2 rfl, ?_⟩
    rw [step_of_read_error fails]
    exact .ask (.refl _)
  every exchanges outcome uncancelled steps := by
    rw [step_of_read_error fails] at steps
    obtain ⟨isCancelled, later, rfl, ended⟩ := yields_ask_iff.1 steps
    obtain rfl : isCancelled = false := (List.forall_mem_cons.1 uncancelled).1
    exact (yields_done_iff.1 ended).2

variable {invocation : Invocation} {ended : Except Failure Value}

/-- A handler that asks nothing of the surroundings is all that there is to its line, unless the
step is cancelled before. -/
theorem evaluate_of_done (reads : before.read line = .ok (some invocation))
    (runs : runHandler (evaluate 63) before
      (invocation.command.handler invocation.owner.info invocation.bundle) =
        .done (changed, ended)) :
    evaluate maxCallDepth line before = (do
      if ← cancelled then
        return (before, .error (.error .cancelled))
      return (changed, ended >>= checkResult invocation.command)) := by
  rw [maxCallDepth, evaluate_of_read 63 reads, runs]
  cases ended <;> rfl

/-- A line whose handler asks nothing of the surroundings ends with what the handler comes to. -/
theorem executes_of_read (reads : before.read line = .ok (some invocation))
    (runs : runHandler (evaluate 63) before
      (invocation.command.handler invocation.owner.info invocation.bundle) =
        .done (changed, .ok value))
    (checked : checkResult invocation.command value = .ok (some value)) :
    Executes line before { changed with previous := some value } (.ok (some value)) := by
  have evaluateEq : evaluate maxCallDepth line before = (do
      if ← cancelled then
        return (before, .error (.error .cancelled))
      return (changed, .ok (some value))) := by
    have promised : (Except.ok value >>= checkResult invocation.command) = .ok (some value) :=
      checked
    rw [evaluate_of_done reads runs, promised]
  constructor
  · obtain ⟨stored, uncancelled, persists⟩ :=
      exists_yields_persistAll (MacroTable.changes before.macros changed.macros)
    refine ⟨⟨.observe, false⟩ :: ⟨.observe, false⟩ :: stored, ?_, ?_⟩
    · exact List.forall_mem_cons.2 ⟨rfl, List.forall_mem_cons.2 ⟨rfl, uncancelled⟩⟩
    · let outcome : Session × Except ShellError (Option Value) :=
        ({ changed with previous := some value }, .ok (some value))
      have concludes : Yields
          (persistAll (MacroTable.changes before.macros changed.macros) >>= fun _ => .done outcome)
          stored outcome :=
        yields_bind_iff.2 ⟨stored, (), [], by simp, persists, .refl _⟩
      rw [step_eq, evaluateEq]
      exact .ask (.ask concludes)
  · rintro exchanges ⟨after, result⟩ uncancelled steps
    obtain ⟨during, ended, evaluated, asked, stored, rfl, evaluates, judged, settled⟩ :=
      yields_step steps
    rw [evaluateEq] at evaluates
    obtain ⟨isCancelled, later, rfl, resumed⟩ := yields_ask_iff.1 evaluates
    obtain rfl : isCancelled = false := uncancelled ⟨.observe, isCancelled⟩ (by simp)
    obtain ⟨rfl, ⟨⟩⟩ := yields_done_iff.1 resumed
    obtain ⟨isSet, rfl, rfl⟩ := yields_verdict_ok judged
    obtain rfl : isSet = false := uncancelled ⟨.observe, isSet⟩ (by simp)
    cases settled with
    | aborts abort => cases abort
    | commits => rfl

/-- A line whose handler panics is taken back. -/
theorem executes_of_panic {text : Option String}
    (reads : before.read line = .ok (some invocation))
    (runs : runHandler (evaluate 63) before
      (invocation.command.handler invocation.owner.info invocation.bundle) =
        .done (changed, .error (.panic text))) :
    Executes line before (rollBack before changed)
      (.error (.panicked (text.getD unknownPanic))) := by
  have evaluateEq := evaluate_of_done reads runs
  constructor
  · refine ⟨[⟨.observe, false⟩], List.forall_mem_singleton.2 rfl, ?_⟩
    rw [step_eq, evaluateEq]
    exact .ask (.refl _)
  · rintro exchanges ⟨after, result⟩ uncancelled steps
    rw [step_eq, evaluateEq] at steps
    obtain ⟨isCancelled, later, rfl, resumed⟩ := yields_ask_iff.1 steps
    obtain rfl : isCancelled = false := uncancelled ⟨.observe, isCancelled⟩ (by simp)
    exact (yields_done_iff.1 resumed).2

/-- A step ends well only with the value that its handler came to. -/
theorem value_of_done {exchanges : List (Exchange signals)} {value? : Option Value}
    (reads : before.read line = .ok (some invocation))
    (runs : runHandler (evaluate 63) before
      (invocation.command.handler invocation.owner.info invocation.bundle) =
        .done (changed, ended))
    (steps : Yields (step line before) exchanges (after, .ok value?)) :
    ended >>= checkResult invocation.command = .ok value? := by
  obtain ⟨_, _, evaluated, asked, _, -, evaluates, judged, -⟩ := yields_step steps
  rw [evaluate_of_done reads runs] at evaluates
  obtain ⟨isCancelled, later, rfl, resumed⟩ := yields_ask_iff.1 evaluates
  cases isCancelled with
  | true =>
      obtain ⟨-, ⟨⟩⟩ := yields_done_iff.1 resumed
      cases (yields_verdict_error judged).2
  | false =>
      obtain ⟨-, ⟨⟩⟩ := yields_done_iff.1 resumed
      generalize ended >>= checkResult invocation.command = checked at judged
      rcases checked with (error | text) | value?
      · cases (yields_verdict_error judged).2
      · cases (yields_verdict_panic judged).2
      · obtain ⟨isSet, -, same⟩ := yields_verdict_ok judged
        cases isSet with
        | true => cases same
        | false =>
            cases same
            rfl

end Session
end CommandShell
