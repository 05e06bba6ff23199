import CommandShell.Proofs.Session.Depth
import CommandShell.Proofs.Session.Execution

/-!
# Chains of calls

A handler that passes the failure of a call on adds the line that it called to it.  So an error
that comes up through a chain of calls ends up under one layer for each of them, the outermost
call first, and nothing else about it changes.  A chain that never stops calling gets to the last
call level, and what comes up from there is that the calls are nested too deeply.
-/

namespace CommandShell

namespace ShellError

/-- An error that has come up through calls of these lines, the first of them the outermost. -/
def through (lines : List String) (error : ShellError) : ShellError :=
  lines.foldr nested error

variable {lines : List String} {error : ShellError}

theorem fault_through : (error.through lines).fault = error.fault := by
  induction lines with
  | nil => rfl
  | cons line lines ih => exact ih

theorem rootCause_through : (error.through lines).rootCause = error.rootCause := by
  induction lines with
  | nil => rfl
  | cons line lines ih => exact ih

theorem isCancelled_through : (error.through lines).isCancelled = error.isCancelled := by
  rw [isCancelled, rootCause_through]
  rfl

/-- What is told of an error stays, however many layers it is under. -/
structure SameCause (first second : ShellError) : Prop where
  fault : first.fault = second.fault
  rootCause : first.rootCause = second.rootCause
  isCancelled : first.isCancelled = second.isCancelled

theorem sameCause_through (lines : List String) (error : ShellError) :
    SameCause (error.through lines) error :=
  ⟨fault_through, rootCause_through, isCancelled_through⟩

end ShellError

/-- A value of another kind is a failure of the call that it comes from. -/
theorem Handler.callExpecting_eq (line : String) (kind : Kind) :
    callExpecting line kind = (do
      let value ← call line
      ofExcept ((value.expectKind kind).mapError (.nested line))) := by
  refine bind_congr fun value => ?_
  cases value.expectKind kind <;> rfl

namespace Session

open CommandShell.Task (Yields Follows yields_ask_iff yields_bind_iff yields_done_iff)

variable {levels : Nat} {line next : String} {before after session changed : Session}
variable {exchanges : List (Exchange signals)}

section Chains

/-- A conversation takes a handler to what is left of it. -/
inductive Comes (levels : Nat) : Session → Task Handler.requests (Except Failure Value) →
    List (Exchange signals) → Session → Task Handler.requests (Except Failure Value) → Prop
  | refl (session : Session) (task : Task Handler.requests (Except Failure Value)) :
      Comes levels session task [] session task
  | head {session between after : Session} {request : Handler.requests.Request}
      {answer : Handler.requests.Reply request}
      {resume : Handler.requests.Reply request → Task Handler.requests (Except Failure Value)}
      {rest : Task Handler.requests (Except Failure Value)} {first later : List (Exchange signals)}
      (replied : Yields (reply (evaluate levels) session request) first (between, .ok answer))
      (comes : Comes levels between (resume answer) later after rest) :
      Comes levels session (.ask request resume) (first ++ later) after rest

theorem Comes.runs {task rest : Task Handler.requests (Except Failure Value)}
    {first second : List (Exchange signals)} {ended : Outcome Value}
    (comes : Comes levels before task first session rest)
    (runs : Yields (runHandler (evaluate levels) session rest) second ended) :
    Yields (runHandler (evaluate levels) before task) (first ++ second) ended := by
  induction comes with
  | refl => exact runs
  | head replied comes ih =>
      rw [List.append_assoc]
      exact yields_runHandler_ask_iff.2 (.inr ⟨_, _, _, _, rfl, replied, ih runs⟩)

/-- A line fails because a line fails that its handler calls, and so on.  Each handler ends with
the failure that it gets back from its call.  A call can also fail because of its value, which is
not of the kind that the handler expects. -/
inductive FailsThrough : (levels : Nat) → (line : String) → (before : Session) →
    List (Exchange signals) → (lines : List String) → ShellError → (after : Session) → Prop
  | innermost {levels : Nat} {line : String} {before after : Session} {error : ShellError}
      {exchanges : List (Exchange signals)}
      (fails : Yields (evaluate levels line before) exchanges (after, .error (.error error))) :
      FailsThrough levels line before exchanges [] error after
  | through {levels : Nat} {line next : String} {lines : List String}
      {before calling called changed after : Session} {invocation : Invocation}
      {resume : Except ShellError Value → Task Handler.requests (Except Failure Value)}
      {error failure : ShellError} {first second third : List (Exchange signals)}
      (reads : before.read line = .ok (some invocation))
      (comes : Comes levels before (invocation.command.handler invocation.owner.info
        invocation.bundle) first calling (.ask (.call next) resume))
      (fails : FailsThrough levels next calling second lines error called)
      (replied : Yields (reply (evaluate levels) calling (.call next)) second
        (changed, .ok (.error failure)))
      (propagates : Yields (runHandler (evaluate levels) changed (resume (.error failure))) third
        (after, .error (.error failure))) :
      FailsThrough (levels + 1) line before (⟨.observe, false⟩ :: (first ++ (second ++ third)))
        (next :: lines) error after
  | unexpected {levels : Nat} {line next : String} {before calling after : Session}
      {invocation : Invocation} {kind : Kind} {value : Value} {rest : Value → Handler Value}
      {error : ShellError} {first second : List (Exchange signals)}
      (reads : before.read line = .ok (some invocation))
      (comes : Comes levels before (invocation.command.handler invocation.owner.info
        invocation.bundle) first calling (Handler.callExpecting next kind >>= rest : Handler Value))
      (replied : Yields (reply (evaluate levels) calling (.call next)) second
        (after, .ok (.ok value)))
      (unfit : value.expectKind kind = .error error) :
      FailsThrough (levels + 1) line before (⟨.observe, false⟩ :: (first ++ second)) [next] error
        after

variable {lines : List String} {error : ShellError}

/-- A handler that gets another value than it expects ends with the error of its kind, under a layer
for the line that it called. -/
theorem runHandler_callExpecting {kind : Kind} {value : Value} {rest : Value → Handler Value}
    (replied : Yields (reply (evaluate levels) session (.call next)) exchanges
      (changed, .ok (.ok value)))
    (unfit : value.expectKind kind = .error error) :
    Yields (runHandler (evaluate levels) session
        (Handler.callExpecting next kind >>= rest : Handler Value))
      exchanges (changed, .error (.error (.nested next error))) := by
  rw [Handler.callExpecting_eq]
  refine yields_runHandler_ask_iff.2
    (.inr ⟨exchanges, _, _, [], (List.append_nil _).symm, replied, ?_⟩)
  change Yields (runHandler _ changed (Handler.ofExcept
    ((value.expectKind kind).mapError (.nested next)) >>= rest : Handler Value)) _ _
  rw [unfit]
  exact .refl _

/-- Each call of a chain adds its layer. -/
theorem FailsThrough.yields
    (fails : FailsThrough levels line before exchanges lines error after) :
    Yields (evaluate levels line before) exchanges
      (after, .error (.error (error.through lines))) := by
  induction fails with
  | innermost fails => exact fails
  | @through levels line next lines before calling called changed after invocation resume error
      failure first second third reads comes fails replied propagates ih =>
      have handedBack : Yields (reply (evaluate levels) calling (.call next)) second
          (called, .ok (.error (.nested next (error.through lines)))) :=
        yields_reply_call_iff.2 ⟨_, ih, rfl⟩
      obtain ⟨-, same⟩ := replied.unique handedBack (rfl : second ++ [] = second ++ [])
      cases same
      have calls : Yields (runHandler (evaluate levels) calling (.ask (.call next) resume))
          (second ++ third) (after, .error (.error (.nested next (error.through lines)))) :=
        yields_runHandler_ask_iff.2 (.inr ⟨_, _, _, _, rfl, handedBack, propagates⟩)
      exact (yields_evaluate_iff reads).2 ⟨_, comes.runs calls, rfl⟩
  | unexpected reads comes replied unfit =>
      have runs := comes.runs (runHandler_callExpecting replied unfit)
      exact (yields_evaluate_iff reads).2 ⟨_, runs, rfl⟩

/-- Every call of a chain takes a level, and at the last one there is nothing left but to fail. -/
theorem FailsThrough.length_le
    (fails : FailsThrough levels line before exchanges lines error after) :
    lines.length ≤ levels ∧
      (lines.length = levels → error = .callDepthExceeded maxCallDepth) := by
  induction fails with
  | @innermost levels line before after error exchanges fails =>
      refine ⟨Nat.zero_le _, ?_⟩
      rintro rfl
      obtain ⟨-, ⟨⟩⟩ := yields_done_iff.1 fails
      rfl
  | through reads comes fails replied propagates ih =>
      obtain ⟨bound, exhausted⟩ := ih
      exact ⟨Nat.succ_le_succ bound, fun same => exhausted (Nat.succ.inj same)⟩
  | @unexpected levels _ _ _ _ _ _ _ _ _ _ _ _ reads comes replied unfit =>
      refine ⟨Nat.succ_le_succ (Nat.zero_le _), fun same => ?_⟩
      obtain rfl : 0 = levels := Nat.succ.inj same
      obtain ⟨ended, evaluates, handedBack⟩ := yields_reply_call_iff.1 replied
      obtain ⟨-, rfl⟩ := yields_done_iff.1 evaluates
      cases handedBack

/-- Replies of surroundings that leave a step alone. -/
def undisturbed : (signal : Signal) → signal.Reply
  | .observe | .pause _ | .await => false
  | .cancel | .submit _ => ()
  | .present _ => .shown
  | .persist .. => .ok ()

/-- A step whose evaluation is over comes to an end. -/
theorem exists_yields_step {ended : Outcome (Option Value)}
    (evaluates : Yields (evaluate maxCallDepth line before) exchanges ended) :
    ∃ later stepped, Yields (step line before) (exchanges ++ later) stepped := by
  obtain ⟨later, stepped, -, concludes⟩ :=
    Task.exists_yields_of_strategy (fun _ => undisturbed) (conclude before ended) []
  refine ⟨later, stepped, ?_⟩
  rw [step_eq]
  exact yields_bind_iff.2 ⟨exchanges, ended, later, rfl, evaluates, concludes⟩

/-- The step ends with the error that came up through the chain. -/
theorem FailsThrough.result_eq {later : List (Exchange signals)}
    {result : Except ShellError (Option Value)}
    (fails : FailsThrough maxCallDepth line before exchanges lines error changed)
    (steps : Yields (step line before) (exchanges ++ later) (after, result)) :
    result = .error (error.through lines) := by
  obtain ⟨during, called, evaluated, asked, stored, split, evaluation, judged, -⟩ :=
    yields_step steps
  obtain ⟨-, same⟩ := fails.yields.unique evaluation split
  cases same
  exact (yields_verdict_error judged).2

end Chains

section Endless

/-- All that the handler of a line does is to call another line and to pass its failure on. -/
def Relays (session : Session) (line next : String) : Prop :=
  ∃ (invocation : Invocation) (resume : Except ShellError Value →
      Task Handler.requests (Except Failure Value)),
    session.read line = .ok (some invocation) ∧
    invocation.command.handler invocation.owner.info invocation.bundle =
      (.ask (.call next) resume : Task Handler.requests (Except Failure Value)) ∧
    ∀ error, resume (.error error) = .done (.error (.error error))

/-- The first lines that are called in a chain. -/
def calledLines (lines : Nat → String) (count : Nat) : List String :=
  (List.range count).map fun index => lines (index + 1)

theorem calledLines_succ (lines : Nat → String) (count : Nat) :
    calledLines lines (count + 1) =
      lines 1 :: calledLines (fun index => lines (index + 1)) count := by
  simp [calledLines, List.range_succ_eq_map, Function.comp_def]

/-- A chain without an end takes up all levels.  The induction is on them, and the chain that is
left is one without an end too. -/
theorem failsThrough_of_relays (levels : Nat) (lines : Nat → String)
    (relays : ∀ index, Relays session (lines index) (lines (index + 1))) :
    FailsThrough levels (lines 0) session (List.replicate levels ⟨.observe, false⟩)
      (calledLines lines levels) (.callDepthExceeded maxCallDepth) session := by
  induction levels generalizing lines with
  | zero => exact .innermost (.refl _)
  | succ levels ih =>
      obtain ⟨invocation, resume, reads, calls, passes⟩ := relays 0
      have fails := ih (fun index => lines (index + 1)) fun index => relays (index + 1)
      have comes : Comes levels session
          (invocation.command.handler invocation.owner.info invocation.bundle) [] session
          (.ask (.call (lines 1)) resume) := by
        rw [calls]
        exact .refl session _
      have replied := yields_reply_call_iff.2 ⟨_, fails.yields, rfl⟩
      have propagates (failure : ShellError) :
          Yields (runHandler (evaluate levels) session (resume (.error failure))) []
            (session, .error (.error failure)) := by
        rw [passes]
        exact .refl _
      have chain := FailsThrough.through reads comes fails replied (propagates _)
      rw [calledLines_succ, List.replicate_succ]
      rwa [List.append_nil] at chain

theorem isAbort_callDepthExceeded (lines : List String) :
    ((ShellError.callDepthExceeded maxCallDepth).through lines).isAbort = false := by
  apply Bool.eq_false_iff.2
  intro abort
  rcases isAbort_iff.1 abort with cause | ⟨text, same⟩
  · rw [ShellError.rootCause_through] at cause
    cases cause
  · cases lines <;> cases same

/-- With an error that is not an abort a step ends as its evaluation does. -/
theorem conclude_of_error (kept : error.isAbort = false) :
    conclude before (before, .error (.error error)) = .done (before, .error error) := by
  have verdictEq : verdict (.error (.error error)) = .done (.error error) := rfl
  have commit : step.abort (.error error : Except ShellError (Option Value)) = false := kept
  simp only [conclude, verdictEq, Task.done_bind, commit, MacroTable.changes_self]
  rfl

/-- Unless it is cancelled, a step with such a chain fails at the last level, under a layer for
each line that was called. -/
theorem executes_of_relays (lines : Nat → String)
    (relays : ∀ index, Relays before (lines index) (lines (index + 1))) :
    Executes (lines 0) before before (.error
      ((ShellError.callDepthExceeded maxCallDepth).through (calledLines lines maxCallDepth))) := by
  have fails := failsThrough_of_relays maxCallDepth lines relays
  have commits := isAbort_callDepthExceeded (calledLines lines maxCallDepth)
  constructor
  · refine ⟨List.replicate maxCallDepth ⟨.observe, false⟩, ?_, ?_⟩
    · intro exchange listed
      rw [List.eq_of_mem_replicate listed]
      rfl
    · rw [step_eq]
      refine yields_bind_iff.2 ⟨_, _, [], (List.append_nil _).symm, fails.yields, ?_⟩
      rw [conclude_of_error commits]
      exact .refl _
  · rintro exchanges ⟨after, result⟩ uncancelled steps
    obtain ⟨during, changed, evaluated, asked, stored, rfl, evaluates, judged, settled⟩ :=
      yields_step steps
    have only : ∀ signal answer,
        (⟨signal, answer⟩ : Exchange signals) ∈ List.replicate maxCallDepth ⟨.observe, false⟩ →
        ∀ other, Truthful false ⟨signal, other⟩ → other = answer := by
      intro signal answer listed other truthful
      cases List.eq_of_mem_replicate listed
      exact truthful
    obtain ⟨-, same⟩ := fails.yields.unique_of_fit evaluates only fun exchange listed =>
      uncancelled exchange (List.mem_append_left _ listed)
    cases same
    obtain ⟨-, rfl⟩ := yields_verdict_error judged
    cases settled with
    | aborts abort => cases commits.symm.trans abort
    | commits => rfl

/-- A line that does nothing but call itself fails at the last level. -/
theorem executes_of_relays_self (relays : Relays before line line) :
    Executes line before before (.error ((ShellError.callDepthExceeded maxCallDepth).through
      (List.replicate maxCallDepth line))) := by
  have called : calledLines (fun _ => line) maxCallDepth = List.replicate maxCallDepth line := by
    rw [calledLines, List.map_const', List.length_range]
  have executes := executes_of_relays (fun _ => line) fun _ => relays
  rwa [called] at executes

end Endless

/-- How deep the calls of a step go, and what comes up from there. -/
structure BoundsCalls (line : String) (before : Session) : Prop where
  /-- The step ends, however the surroundings choose their replies. -/
  terminates : ∀ strategy, ∃ exchanges ended, Follows strategy [] exchanges ∧
    Yields (step line before) exchanges ended
  /-- There is no endless way from handlers into the lines that they call. -/
  descends : ∀ points : Nat → Point, points 0 = ⟨.line maxCallDepth line, before⟩ →
    ∃ index, ¬ Enters (points index) (points (index + 1))
  calls : ∀ limit, before.Frugal limit → ∀ exchanges requests ended,
    Yields (traceStep line before) exchanges (requests, ended) →
      Handler.calls requests ≤ callBudget limit maxCallDepth
  depth : ∀ exchanges depth levels task session ahead,
    Visits ⟨0, ⟨.line maxCallDepth line, before⟩, exchanges⟩
        ⟨depth, ⟨.handler levels task, session⟩, ahead⟩ →
      1 ≤ depth ∧ depth ≤ maxCallDepth
  /-- The error of a chain is the innermost one under a layer for each line that was called. -/
  chains : ∀ exchanges lines error changed,
    FailsThrough maxCallDepth line before exchanges lines error changed →
      (∃ later stepped, Yields (step line before) (exchanges ++ later) stepped) ∧
      ∀ later after result, Yields (step line before) (exchanges ++ later) (after, result) →
        result = .error (error.through lines) ∧ ShellError.SameCause (error.through lines) error
  exhausts : ∀ exchanges lines error changed,
    FailsThrough maxCallDepth line before exchanges lines error changed →
      lines.length ≤ maxCallDepth ∧
        (lines.length = maxCallDepth → error = .callDepthExceeded maxCallDepth)
  /-- A line that calls itself, or others without an end, gets to the last level. -/
  loops : Relays before line line → Executes line before before (.error
    ((ShellError.callDepthExceeded maxCallDepth).through (List.replicate maxCallDepth line)))
  relays : ∀ lines : Nat → String, lines 0 = line →
    (∀ index, Relays before (lines index) (lines (index + 1))) →
      Executes line before before (.error
        ((ShellError.callDepthExceeded maxCallDepth).through (calledLines lines maxCallDepth)))

theorem boundsCalls (line : String) (before : Session) : BoundsCalls line before where
  terminates strategy := by
    obtain ⟨exchanges, ended, follows, steps⟩ :=
      Task.exists_yields_of_strategy strategy (step line before) []
    exact ⟨exchanges, ended, follows, steps⟩
  descends points _ := exists_not_enters points
  calls limit frugal exchanges requests ended := calls_traceStep frugal
  depth exchanges depth levels task session ahead visits := by
    obtain ⟨entered, bounded, -⟩ := depth_of_handler visits
    exact ⟨entered, bounded⟩
  chains exchanges lines error changed fails := by
    refine ⟨exists_yields_step fails.yields, fun later after result steps => ?_⟩
    exact ⟨fails.result_eq steps, ShellError.sameCause_through lines error⟩
  exhausts exchanges lines error changed fails := fails.length_le
  loops := executes_of_relays_self
  relays lines starts relays := starts ▸ executes_of_relays lines relays

theorem relays_of_call : Relays (ofHandler (Handler.call "go")) "go" "go" :=
  ⟨_, _, read_ofHandler (Handler.call "go"), rfl, fun _ => rfl⟩

theorem callsAtMost_call (line : String) : Handler.CallsAtMost 1 (Handler.call line) := by
  change Handler.CallsAtMost (Handler.calls [.call line] + 0) (.ask (.call line) _)
  refine .ask fun answer : Except ShellError Value => ?_
  cases answer with
  | error error => exact .done 0 _
  | ok value => exact .done 0 _

theorem frugal_of_call : (ofHandler (Handler.call "go")).Frugal 1 where
  loaded key module found := by
    have listed := NameMap.mem_values_of_find? found
    obtain rfl := List.mem_singleton.1 listed
    intro name command has info bundle
    obtain rfl := List.mem_singleton.1 (NameMap.mem_values_of_find? has)
    exact callsAtMost_call "go"
  loadable library modules assembled := by cases assembled

/-- A command that calls itself gets to the last level, and it is called once at each. -/
theorem exhausted_of_call :
    Executes "go" (ofHandler (Handler.call "go")) (ofHandler (Handler.call "go")) (.error
      ((ShellError.callDepthExceeded 64).through (List.replicate 64 "go"))) ∧
    ∀ exchanges requests ended,
      Yields (traceStep "go" (ofHandler (Handler.call "go"))) exchanges (requests, ended) →
        Handler.calls requests ≤ 64 := by
  have bounds := boundsCalls "go" (ofHandler (Handler.call "go"))
  exact ⟨bounds.loops relays_of_call, bounds.calls 1 frugal_of_call⟩

end Session
end CommandShell
