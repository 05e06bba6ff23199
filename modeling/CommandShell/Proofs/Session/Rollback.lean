import CommandShell.Proofs.Session.Invocation
import CommandShell.Session.Step

/-!
# Steps that are taken back

A step evaluates its line, asks for the verdict, and then either takes everything
back or commits it.  `yields_step` spells this out for every conversation of a
step.  It follows that a step whose result is an abort leaves the modules, the
macros and the previous output as they were and has stored nothing, and that the
same holds of `run`, which only presents things around the step.
-/

namespace CommandShell
namespace Session

open CommandShell.Task (Yields yields_ask_iff yields_bind_iff yields_done_iff)

def conclude (before : Session) (outcome : Outcome (Option Value)) :
    Task signals (Session × Except ShellError (Option Value)) := do
  let result ← verdict outcome.2
  if step.abort result then
    return (rollBack before outcome.1, result)
  persistAll (MacroTable.changes before.macros outcome.1.macros)
  return (outcome.1.remember result, result)

theorem step_eq (line : String) (before : Session) :
    step line before = evaluate maxCallDepth line before >>= conclude before :=
  rfl

/-- A step whose line invokes a command settles what comes of its handler. -/
theorem step_of_read {line : String} {before : Session} {invocation : Invocation}
    (reads : before.read line = .ok (some invocation)) :
    step line before = (do
      if ← cancelled then
        return (before, .error (.error .cancelled))
      let outcome ← runHandler (evaluate 63) before
        (invocation.command.handler invocation.owner.info invocation.bundle)
      return (outcome.1, outcome.2 >>= checkResult invocation.command)) >>= conclude before := by
  rw [step_eq, maxCallDepth, evaluate_of_read 63 reads]
  congr 2
  funext isSet
  cases isSet with
  | true => rfl
  | false =>
      refine congrArg (runHandler _ _ _ >>= ·) ?_
      funext outcome
      obtain ⟨changed, ended⟩ := outcome
      cases ended <;> rfl

/-- A step either takes back what the evaluation of its line did, or stores the
changes of macros and remembers the result. -/
inductive Settles (before changed : Session)
    (result : Except ShellError (Option Value)) :
    List (Exchange signals) → Session → Prop
  | aborts (abort : step.abort result = true) :
      Settles before changed result [] (rollBack before changed)
  | commits {stored : List (Exchange signals)}
      (commit : step.abort result = false)
      (persisted : Yields
        (persistAll (MacroTable.changes before.macros changed.macros)) stored ()) :
      Settles before changed result stored (changed.remember result)

theorem yields_conclude {before changed after : Session}
    {evaluated : Except Failure (Option Value)}
    {result : Except ShellError (Option Value)}
    {exchanges : List (Exchange signals)}
    (yields : Yields (conclude before (changed, evaluated)) exchanges
      (after, result)) :
    ∃ asked stored, exchanges = asked ++ stored ∧
      Yields (verdict evaluated) asked result ∧
      Settles before changed result stored after := by
  obtain ⟨asked, judged, stored, rfl, verdict, settled⟩ := yields_bind_iff.1 yields
  cases aborts : step.abort judged with
  | true =>
      rw [if_pos aborts] at settled
      obtain ⟨rfl, same⟩ := yields_done_iff.1 settled
      cases same
      exact ⟨asked, [], rfl, verdict, .aborts aborts⟩
  | false =>
      rw [if_neg (by simp [aborts])] at settled
      obtain ⟨first, _, second, rfl, persisted, ended⟩ := yields_bind_iff.1 settled
      obtain ⟨rfl, same⟩ := yields_done_iff.1 ended
      cases same
      exact ⟨asked, first ++ [], rfl, verdict,
        by simpa using Settles.commits aborts persisted⟩

/-- What happens in a step, from the evaluation of its line to its end. -/
theorem yields_step {line : String} {before after : Session}
    {result : Except ShellError (Option Value)}
    {exchanges : List (Exchange signals)}
    (yields : Yields (step line before) exchanges (after, result)) :
    ∃ during changed evaluated asked stored,
      exchanges = during ++ (asked ++ stored) ∧
      Yields (evaluate maxCallDepth line before) during (changed, evaluated) ∧
      Yields (verdict evaluated) asked result ∧
      Settles before changed result stored after := by
  obtain ⟨during, ⟨changed, evaluated⟩, later, rfl, evaluation, concluded⟩ :=
    yields_bind_iff.1 (step_eq line before ▸ yields)
  obtain ⟨asked, stored, rfl, verdict, settled⟩ := yields_conclude concluded
  exact ⟨during, changed, evaluated, asked, stored, rfl, evaluation, verdict,
    settled⟩

def StoresNothing (exchanges : List (Exchange signals)) : Prop :=
  ∀ exchange ∈ exchanges, ¬ Signal.Stores exchange.1

theorem evaluate_storesNothing {levels : Nat} {line : String} {before : Session}
    {exchanges : List (Exchange signals)} {outcome : Outcome (Option Value)}
    (yields : Yields (evaluate levels line before) exchanges outcome) :
    StoresNothing exchanges :=
  ((quiet_evaluate levels line before).of_yields yields).1

theorem changes_of_yields {levels : Nat} {line : String} {before : Session}
    {exchanges : List (Exchange signals)} {outcome : Outcome (Option Value)}
    (yields : Yields (evaluate levels line before) exchanges outcome) :
    Changes anyTable before outcome.1 :=
  ((quiet_evaluate levels line before).of_yields yields).2

theorem yields_verdict_ok {value? : Option Value}
    {result : Except ShellError (Option Value)}
    {exchanges : List (Exchange signals)}
    (yields : Yields (verdict (.ok value?)) exchanges result) :
    ∃ isSet : Bool, exchanges = [⟨.observe, isSet⟩] ∧
      result = if isSet then .error .cancelled else .ok value? := by
  obtain ⟨isSet, later, rfl, judged⟩ := yields_ask_iff.1 yields
  refine ⟨isSet, ?_⟩
  cases isSet <;>
  · obtain ⟨rfl, rfl⟩ := yields_done_iff.1 judged
    exact ⟨rfl, rfl⟩

theorem yields_verdict_error {error : ShellError}
    {result : Except ShellError (Option Value)}
    {exchanges : List (Exchange signals)}
    (yields : Yields (verdict (.error (.error error))) exchanges result) :
    exchanges = [] ∧ result = .error error :=
  yields_done_iff.1 yields

theorem yields_verdict_panic {text : Option String}
    {result : Except ShellError (Option Value)}
    {exchanges : List (Exchange signals)}
    (yields : Yields (verdict (.error (.panic text))) exchanges result) :
    exchanges = [] ∧ result = .error (.panicked (text.getD unknownPanic)) :=
  yields_done_iff.1 yields

theorem verdict_storesNothing {evaluated : Except Failure (Option Value)}
    {result : Except ShellError (Option Value)}
    {exchanges : List (Exchange signals)}
    (yields : Yields (verdict evaluated) exchanges result) :
    StoresNothing exchanges := by
  rcases evaluated with (error | text) | value?
  · obtain ⟨rfl, -⟩ := yields_verdict_error yields
    exact fun _ member => nomatch member
  · obtain ⟨rfl, -⟩ := yields_verdict_panic yields
    exact fun _ member => nomatch member
  · obtain ⟨isSet, rfl, -⟩ := yields_verdict_ok yields
    intro exchange member
    obtain rfl := List.mem_singleton.1 member
    exact id

/-- The parts of a session that a user of the shell sees are as they were. -/
structure Restored (before after : Session) : Prop where
  registry : after.registry = before.registry
  macros : after.macros = before.macros
  previous : after.previous = before.previous

/-- A step that ends in an abort has never been. -/
theorem restored_of_abort {line : String} {before after : Session}
    {error : ShellError} {exchanges : List (Exchange signals)}
    (yields : Yields (step line before) exchanges (after, .error error))
    (abort : error.isAbort = true) :
    Restored before after ∧ StoresNothing exchanges := by
  obtain ⟨during, changed, evaluated, asked, stored, rfl, evaluation, verdict,
    settled⟩ := yields_step yields
  cases settled with
  | commits commit => exact absurd (abort.symm.trans commit) (by decide)
  | aborts =>
      refine ⟨⟨rfl, rfl, (changes_of_yields evaluation).previous_eq⟩, ?_⟩
      intro exchange member
      rcases List.mem_append.1 member with member | member
      · exact evaluate_storesNothing evaluation exchange member
      · rw [List.append_nil] at member
        exact verdict_storesNothing verdict exchange member

/-- What comes of presenting something outside of a step. -/
def presentationOutcome : Delivery → Except Failure Unit
  | .panicked text => .error (.panic text)
  | .shown | .failed _ => .ok ()

theorem yields_presentOutside_iff {item : Presentation}
    {exchanges : List (Exchange signals)} {result : Except Failure Unit} :
    Yields (presentOutside item) exchanges result ↔
      ∃ delivery, exchanges = [⟨.present item, delivery⟩] ∧
        result = presentationOutcome delivery := by
  constructor
  · intro yields
    obtain ⟨delivery, later, rfl, ended⟩ := yields_ask_iff.1 yields
    refine ⟨delivery, ?_⟩
    cases delivery <;>
    · obtain ⟨rfl, rfl⟩ := yields_done_iff.1 ended
      exact ⟨rfl, rfl⟩
  · rintro ⟨delivery, rfl, rfl⟩
    refine .ask ?_
    cases delivery <;> exact .refl _

/-- Present how a step ended. -/
def disclose (ended : Session × Except ShellError (Option Value)) :
    Task signals (Session × Except Failure (Except ShellError (Option Value))) := do
  match closing ended.2 with
  | none => return (ended.1, .ok ended.2)
  | some item =>
      match ← presentOutside item with
      | .error failure => return (ended.1, .error failure)
      | .ok () => return (ended.1, .ok ended.2)

theorem yields_disclose_iff {after : Session} {result : Except ShellError (Option Value)}
    {shown : List (Exchange signals)}
    {outcome : Session × Except Failure (Except ShellError (Option Value))} :
    Yields (disclose (after, result)) shown outcome ↔
      (closing result = none ∧ shown = [] ∧ outcome = (after, .ok result)) ∨
      ∃ item last, closing result = some item ∧ shown = [⟨.present item, last⟩] ∧
        outcome = (after, (fun _ => result) <$> presentationOutcome last) := by
  rw [disclose]
  cases closes : closing result with
  | none => simp [yields_done_iff]
  | some item =>
      dsimp only
      rw [yields_bind_iff]
      constructor
      · rintro ⟨_, _, last, rfl, presents, ended⟩
        obtain ⟨delivery, rfl, rfl⟩ := yields_presentOutside_iff.1 presents
        refine .inr ⟨item, delivery, rfl, ?_⟩
        cases delivery <;>
        · obtain ⟨rfl, rfl⟩ := yields_done_iff.1 ended
          exact ⟨rfl, rfl⟩
      · rintro (⟨⟨⟩, -⟩ | ⟨_, delivery, ⟨⟩, rfl, rfl⟩)
        refine ⟨_, _, [], rfl, yields_presentOutside_iff.2 ⟨delivery, rfl, rfl⟩, ?_⟩
        cases delivery <;> exact .refl _

/-- What happens when a line is run: the echo, the step, and the presentation of how it ended.
If the echo panics there is no step. -/
inductive Runs (line : String) (before : Session) : List (Exchange signals) →
    Session × Except Failure (Except ShellError (Option Value)) → Prop
  | broken {echo : Delivery} {failure : Failure}
      (breaks : presentationOutcome echo = .error failure) :
      Runs line before [⟨.present (.echo line), echo⟩] (before, .error failure)
  | makes {echo : Delivery} {ran shown : List (Exchange signals)} {after : Session}
      {result : Except ShellError (Option Value)}
      {outcome : Session × Except Failure (Except ShellError (Option Value))}
      (echoes : presentationOutcome echo = .ok ())
      (steps : Yields (step line before) ran (after, result))
      (discloses : Yields (disclose (after, result)) shown outcome) :
      Runs line before (⟨.present (.echo line), echo⟩ :: (ran ++ shown)) outcome

theorem yields_run_iff_runs {line : String} {before : Session} {exchanges : List (Exchange signals)}
    {outcome : Session × Except Failure (Except ShellError (Option Value))} :
    Yields (run line before) exchanges outcome ↔ Runs line before exchanges outcome := by
  constructor
  · intro yields
    obtain ⟨_, echoed, later, rfl, presents, rest⟩ := yields_bind_iff.1 yields
    obtain ⟨echo, rfl, rfl⟩ := yields_presentOutside_iff.1 presents
    cases echoes : presentationOutcome echo with
    | error failure =>
        rw [echoes] at rest
        obtain ⟨rfl, rfl⟩ := yields_done_iff.1 rest
        exact .broken echoes
    | ok =>
        rw [echoes] at rest
        obtain ⟨ran, ⟨after, result⟩, shown, rfl, steps, discloses⟩ := yields_bind_iff.1 rest
        have runs := Runs.makes echoes steps discloses
        exact runs
  · intro runs
    cases runs with
    | @broken echo failure breaks =>
        refine yields_bind_iff.2
          ⟨_, _, [], rfl, yields_presentOutside_iff.2 ⟨echo, rfl, rfl⟩, ?_⟩
        rw [breaks]
        exact .refl _
    | @makes echo ran shown after result outcome echoes steps discloses =>
        refine yields_bind_iff.2
          ⟨_, _, ran ++ shown, rfl, yields_presentOutside_iff.2 ⟨echo, rfl, rfl⟩, ?_⟩
        rw [echoes]
        exact yields_bind_iff.2 ⟨ran, (after, result), shown, rfl, steps, discloses⟩

/-- A line that is run makes a step between its echo and what shows how it ended, or its echo
panics. -/
theorem yields_run_or {line : String} {before after : Session}
    {outcome : Except Failure (Except ShellError (Option Value))}
    {exchanges : List (Exchange signals)}
    (yields : Yields (run line before) exchanges (after, outcome)) :
    (exchanges.map Sigma.fst = [.present (.echo line)] ∧ after = before ∧
      ∃ failure, outcome = .error failure) ∨
    ∃ echoed ran shown result, exchanges = echoed ++ (ran ++ shown) ∧
      echoed.map Sigma.fst = [.present (.echo line)] ∧
      Yields (step line before) ran (after, result) ∧
      shown.map Sigma.fst = (closing result).toList.map .present ∧
      (outcome = .ok result ∨ ∃ failure, outcome = .error failure) := by
  cases yields_run_iff_runs.1 yields with
  | broken => exact .inl ⟨rfl, rfl, _, rfl⟩
  | @makes echo ran shown ended result _ _ steps discloses =>
      refine .inr ⟨[⟨.present (.echo line), echo⟩], ran, shown, result, rfl, rfl, ?_⟩
      rcases yields_disclose_iff.1 discloses with
        ⟨silent, rfl, ⟨⟩⟩ | ⟨item, last, shows, rfl, ⟨⟩⟩
      · exact ⟨steps, by rw [silent]; rfl, .inl rfl⟩
      · refine ⟨steps, by rw [shows]; rfl, ?_⟩
        cases last with
        | panicked text => exact .inr ⟨_, rfl⟩
        | shown | failed => exact .inl rfl

theorem yields_run {line : String} {before after : Session}
    {result : Except ShellError (Option Value)}
    {exchanges : List (Exchange signals)}
    (yields : Yields (run line before) exchanges (after, .ok result)) :
    ∃ echoed ran shown, exchanges = echoed ++ (ran ++ shown) ∧
      echoed.map Sigma.fst = [.present (.echo line)] ∧
      Yields (step line before) ran (after, result) ∧
      shown.map Sigma.fst = (closing result).toList.map .present := by
  rcases yields_run_or yields with
    ⟨-, -, failure, ⟨⟩⟩ | ⟨echoed, ran, shown, ended, exchangesEq, echo, stepping, shows, ends⟩
  rcases ends with ⟨⟨⟩⟩ | ⟨failure, ⟨⟩⟩
  exact ⟨echoed, ran, shown, exchangesEq, echo, stepping, shows⟩

theorem storesNothing_of_presents {exchanges : List (Exchange signals)}
    (items : List Presentation)
    (presents : exchanges.map Sigma.fst = items.map .present) :
    StoresNothing exchanges := by
  intro exchange member
  have listed : exchange.1 ∈ items.map Signal.present :=
    presents ▸ List.mem_map_of_mem member
  obtain ⟨item, -, same⟩ := List.mem_map.1 listed
  rw [← same]
  exact id

theorem isAbort_iff {error : ShellError} :
    error.isAbort = true ↔
      error.rootCause = .cancelled ∨ ∃ text, error = .panicked text := by
  unfold ShellError.isAbort
  split
  · next text => exact ⟨fun _ => .inr ⟨text, rfl⟩, fun _ => rfl⟩
  · next notPanicked =>
      rw [ShellError.isCancelled, beq_iff_eq]
      exact ⟨.inl, fun cause => cause.resolve_right fun ⟨text, same⟩ =>
        notPanicked text same⟩

/-- A step that ends cancelled or with a panic, whether it is made by itself or
as a part of `run`, leaves the modules, the macros and the previous output as
they were, and it has stored nothing. -/
theorem restored_of_cancelled_or_panicked {line : String}
    {before after : Session} {error : ShellError}
    {exchanges : List (Exchange signals)}
    (ends : Yields (step line before) exchanges (after, .error error) ∨
      Yields (run line before) exchanges (after, .ok (.error error)))
    (cause : error.rootCause = .cancelled ∨ ∃ text, error = .panicked text) :
    Restored before after ∧ StoresNothing exchanges := by
  have abort := isAbort_iff.2 cause
  rcases ends with stepped | ran
  · exact restored_of_abort stepped abort
  · obtain ⟨echoed, during, shown, rfl, echo, stepped, closed⟩ := yields_run ran
    obtain ⟨restored, storesNothing⟩ := restored_of_abort stepped abort
    refine ⟨restored, fun exchange member => ?_⟩
    rcases List.mem_append.1 member with member | member
    · exact storesNothing_of_presents [.echo line] echo exchange member
    · rcases List.mem_append.1 member with member | member
      · exact storesNothing exchange member
      · exact storesNothing_of_presents _ closed exchange member

def goCommand (handler : Handler Value) : Command where
  name := "go"
  handler _ _ := handler

def goModule (handler : Handler Value) : Module where
  name := "m"
  version := "1"
  color := .plain
  commands := ⟨[("go", goCommand handler)], List.pairwise_singleton _ _⟩

/-- A session whose only module has the command `go`. -/
def ofHandler (handler : Handler Value) : Session where
  registry := ⟨[("m", goModule handler)], List.pairwise_singleton _ _⟩

theorem read_ofHandler (handler : Handler Value) :
    (ofHandler handler).read "go" =
      .ok (some ⟨goModule handler, goCommand handler, {}⟩) :=
  read_name (by decide) rfl rfl

/-- A handler that draws an image, defines a macro, unloads its own module, and
learns only then that it is cancelled. -/
def mangle : Handler Value := do
  let _ ← Handler.blankImage 1 1
  Handler.addMacro "temp" "go"
  Handler.unloadModule "m"
  Handler.checkpoint
  return .none

theorem restored_of_mangle :
    Yields (step "go" (ofHandler mangle))
        [⟨.observe, false⟩, ⟨.observe, true⟩]
        ({ ofHandler mangle with images := 1 }, .error .cancelled) ∧
      Restored (ofHandler mangle) { ofHandler mangle with images := 1 } ∧
      StoresNothing [⟨.observe, false⟩, ⟨.observe, true⟩] := by
  have stepped : Yields (step "go" (ofHandler mangle))
      [⟨.observe, false⟩, ⟨.observe, true⟩]
      ({ ofHandler mangle with images := 1 }, .error .cancelled) := by
    rw [step_of_read (read_ofHandler mangle)]
    delta runHandler
    exact .ask (.ask (.refl _))
  exact ⟨stepped,
    restored_of_cancelled_or_panicked (.inl stepped) (.inl rfl)⟩

end Session
end CommandShell
