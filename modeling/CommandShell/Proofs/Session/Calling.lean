import CommandShell.Proofs.Session.Chains
import CommandShell.Proofs.Session.Showing
import CommandShell.Proofs.Session.Upkeep

/-!
# The command that calls a line

The command `call` evaluates a line one level deeper than the step of that line would, and says
so afterwards.  A level more or less makes a difference only where none is left (`Shallow`), so
both steps have the same conversation in their middle, and from there on they settle alike.
-/

namespace CommandShell
namespace Session

open Handler (CallsAtMost)
open CommandShell.Task (Yields yields_ask_iff yields_bind_iff yields_done_iff)

variable {levels depth : Nat} {line : String} {before session changed : Session}
variable {exchanges rest : List (Exchange signals)}

section Levels

/-- No line is evaluated from a place on for which no call level is left. -/
def Shallow (place : Place) : Prop :=
  ∀ reached, Visits place reached → ∀ line, reached.point.stage ≠ .line 0 line

theorem Shallow.later {place next : Place} (shallow : Shallow place) (visits : Visits place next) :
    Shallow next :=
  fun reached later => shallow reached (visits.trans later)

/-- Shallow conversations about a line go the same way with one level more. -/
abbrev Deepens (levels : Nat) : Prop :=
  ∀ (line : String) (session : Session) (exchanges rest : List (Exchange signals)) (depth : Nat)
    (outcome : Outcome (Option Value)),
    Shallow ⟨depth, ⟨.line levels line, session⟩, exchanges ++ rest⟩ →
    Yields (evaluate levels line session) exchanges outcome →
      Yields (evaluate (levels + 1) line session) exchanges outcome

theorem yields_reply_succ (lines : Deepens levels) {request : Handler.requests.Request}
    {resume : Handler.requests.Reply request → Task Handler.requests (Except Failure Value)}
    {replied : Outcome (Handler.requests.Reply request)}
    (shallow : Shallow ⟨depth, ⟨.handler levels (.ask request resume), session⟩, exchanges ++ rest⟩)
    (replies : Yields (reply (evaluate levels) session request) exchanges replied) :
    Yields (reply (evaluate (levels + 1)) session request) exchanges replied := by
  cases request with
  | call line =>
      obtain ⟨ended, evaluates, rfl⟩ := yields_reply_call_iff.1 replies
      have nested := shallow.later (.single .call)
      exact yields_reply_call_iff.2 ⟨ended, lines line session _ rest depth _ nested evaluates, rfl⟩
  | _ => exact replies

theorem yields_runHandler_succ (lines : Deepens levels)
    {task : Task Handler.requests (Except Failure Value)} {ended : Outcome Value}
    (shallow : Shallow ⟨depth, ⟨.handler levels task, session⟩, exchanges ++ rest⟩)
    (runs : Yields (runHandler (evaluate levels) session task) exchanges ended) :
    Yields (runHandler (evaluate (levels + 1)) session task) exchanges ended := by
  induction task generalizing session exchanges with
  | done result => exact runs
  | ask request resume ih =>
      rcases yields_runHandler_ask_iff.1 runs with
        ⟨changed, failure, replies, rfl⟩ | ⟨first, changed, answer, second, rfl, replies, resumed⟩
      · exact yields_runHandler_ask_iff.2
          (.inl ⟨changed, failure, yields_reply_succ lines shallow replies, rfl⟩)
      · rw [List.append_assoc] at shallow
        have next := shallow.later (.single (.resume replies))
        exact yields_runHandler_ask_iff.2 (.inr ⟨first, changed, answer, second, rfl,
          yields_reply_succ lines shallow replies, ih answer next resumed⟩)

theorem evaluate_of_no_invocation (first second : Nat)
    (none : ∀ invocation, session.read line ≠ .ok (some invocation)) :
    evaluate (first + 1) line session = evaluate (second + 1) line session := by
  rw [evaluate, evaluate]
  refine bind_congr fun isCancelled => ?_
  cases isCancelled with
  | true => rfl
  | false =>
      cases reads : session.read line with
      | error error => rfl
      | ok invocation? =>
          cases invocation? with
          | none => rfl
          | some invocation => exact absurd reads (none invocation)

/-- The induction is on the levels that are left for the line. -/
theorem yields_evaluate_succ (levels : Nat) : Deepens levels := by
  induction levels with
  | zero =>
      intro line session exchanges rest depth outcome shallow
      exact absurd rfl (shallow _ .refl line)
  | succ levels ih =>
      intro line session exchanges rest depth outcome shallow evaluates
      by_cases invokes : ∃ invocation, session.read line = .ok (some invocation)
      · obtain ⟨invocation, reads⟩ := invokes
        have asked := evaluates
        rw [evaluate_of_read levels reads] at asked
        obtain ⟨isCancelled, later, rfl, resumed⟩ := yields_ask_iff.1 asked
        cases isCancelled with
        | true =>
            rw [evaluate_of_read (levels + 1) reads]
            exact .ask resumed
        | false =>
            obtain ⟨ended, runs, rfl⟩ := (yields_evaluate_iff reads).1 evaluates
            have entered := shallow.later (.single (.invoke reads))
            exact (yields_evaluate_iff reads).2
              ⟨ended, yields_runHandler_succ ih entered runs, rfl⟩
      · have none : ∀ invocation, session.read line ≠ .ok (some invocation) :=
          fun invocation reads => invokes ⟨invocation, reads⟩
        rwa [evaluate_of_no_invocation (levels + 1) levels none]

/-- A handler that makes no calls stays without them. -/
theorem callsAtMost_of_visits {task : Task Handler.requests (Except Failure Value)}
    {ahead : List (Exchange signals)} {reached : Place} (none : CallsAtMost 0 task)
    (visits : Visits ⟨depth, ⟨.handler levels task, session⟩, ahead⟩ reached) :
    ∃ left, reached.point.stage = .handler levels left ∧ CallsAtMost 0 left := by
  induction visits with
  | refl => exact ⟨task, rfl, none⟩
  | tail _ proceeds ih =>
      obtain ⟨left, stage, none⟩ := ih
      cases proceeds with
      | invoke => cases stage
      | @call _ _ next =>
          cases stage
          obtain ⟨below, same, -⟩ := none.of_ask
          have one : Handler.calls [.call next] = 1 := rfl
          omega
      | resume =>
          cases stage
          obtain ⟨below, same, later⟩ := none.of_ask
          obtain rfl : below = 0 := by omega
          exact ⟨_, rfl, later _⟩

theorem shallow_of_callsAtMost {task : Task Handler.requests (Except Failure Value)}
    {ahead : List (Exchange signals)} (none : CallsAtMost 0 task) :
    Shallow ⟨depth, ⟨.handler levels task, session⟩, ahead⟩ := by
  intro reached visits line same
  obtain ⟨left, stage, -⟩ := callsAtMost_of_visits none visits
  cases stage.symm.trans same

/-- A handler that makes one call is shallow if the line is that it calls. -/
theorem shallow_of_call {next : String} {ahead : List (Exchange signals)}
    {resume : Except ShellError Value → Task Handler.requests (Except Failure Value)}
    (called : Shallow ⟨depth, ⟨.line levels next, session⟩, ahead⟩)
    (later : ∀ answer, CallsAtMost 0 (resume answer)) :
    Shallow ⟨depth, ⟨.handler levels (.ask (.call next) resume), session⟩, ahead⟩ := by
  intro reached visits
  rcases Relation.ReflTransGen.cases_head visits with rfl | ⟨between, proceeds, visits⟩
  · exact fun line => nofun
  · cases proceeds with
    | call => exact called reached visits
    | @resume _ _ _ answer => exact shallow_of_callsAtMost (later answer) reached visits

theorem shallow_of_read {invocation : Invocation} {ahead : List (Exchange signals)}
    (reads : session.read line = .ok (some invocation))
    (handles : ∀ later, Shallow ⟨depth + 1, ⟨.handler levels (invocation.command.handler
      invocation.owner.info invocation.bundle), session⟩, later⟩) :
    Shallow ⟨depth, ⟨.line (levels + 1) line, session⟩, ahead⟩ := by
  intro reached visits
  rcases Relation.ReflTransGen.cases_head visits with rfl | ⟨between, proceeds, visits⟩
  · exact fun line => nofun
  · cases proceeds with
    | @invoke _ _ _ _ other later otherReads =>
        cases reads.symm.trans otherReads
        exact handles later reached visits

end Levels

section Calm

/-- A reply of surroundings that neither cancel the step nor fail to show a value. -/
def Untroubled : Exchange signals → Prop
  | ⟨.present _, delivery⟩ => delivery = .shown
  | exchange => Truthful false exchange

/-- A conversation in which nobody cancels the step and everything is shown. -/
def Calm (exchanges : List (Exchange signals)) : Prop :=
  ∀ exchange ∈ exchanges, Untroubled exchange

theorem untroubled_undisturbed (signal : Signal) : Untroubled ⟨signal, undisturbed signal⟩ := by
  cases signal <;> first | rfl | trivial

/-- Every task has a calm conversation. -/
theorem exists_calm {α : Type} (task : Task signals α) :
    ∃ exchanges value, Calm exchanges ∧ Yields task exchanges value := by
  obtain ⟨exchanges, value, follows, yields⟩ :=
    Task.exists_yields_of_strategy (fun _ => undisturbed) task []
  refine ⟨exchanges, value, ?_, yields⟩
  rintro ⟨signal, answer⟩ listed
  obtain rfl : answer = undisturbed signal := Task.reply_of_follows follows _ listed
  exact untroubled_undisturbed signal

theorem eq_of_untroubled {signal : Signal} {answer other : signal.Reply}
    (stores : ¬ signal.Stores) (calm : Untroubled ⟨signal, answer⟩)
    (calmOther : Untroubled ⟨signal, other⟩) : other = answer := by
  cases signal with
  | persist name body => exact absurd trivial stores
  | cancel | submit => rfl
  | observe | pause | await | present => exact Eq.trans calmOther (Eq.symm calm)

/-- Unless it stores something, a task has only one calm conversation. -/
theorem Calm.unique {α : Type} {task : Task signals α} {first second : List (Exchange signals)}
    {value other : α} (yields : Yields task first value) (again : Yields task second other)
    (calm : Calm first) (calmAgain : Calm second) (storesNothing : StoresNothing first) :
    first = second ∧ value = other := by
  refine yields.unique_of_fit again ?_ calmAgain
  intro signal answer listed other fits
  exact eq_of_untroubled (storesNothing _ listed) (calm _ listed) fits

theorem Calm.uncancelled (calm : Calm exchanges) : Uncancelled exchanges := by
  rintro ⟨signal, answer⟩ listed
  have untroubled : Untroubled ⟨signal, answer⟩ := calm _ listed
  cases signal with
  | observe | pause | await => exact untroubled
  | cancel | present | persist | submit => trivial

end Calm

section Call

/-- The line that has `call` run another line. -/
def callLine (line : String) : String := "wah.call line=" ++ Token.quoted line

/-- What that line is read as. -/
def callInvocation (system : Module) (line : String) : Invocation where
  owner := system
  command := SystemModule.callCommand
  bundle := Bundle.withArgument {} "line" (.plainText line)

/-- What `call` shows when the line has ended well. -/
def callResults : Presentation := .value (.text "Call Results:" .gray)

/-- What `call` makes of how the line ended, and what it shows then. -/
inductive Wraps (line : String) : Except Failure (Option Value) → List Presentation →
    Except Failure (Option Value) → Prop
  | value (value? : Option Value) :
      Wraps line (.ok value?) [callResults] (.ok (some (value?.getD .none)))
  | error (error : ShellError) :
      Wraps line (.error (.error error)) [] (.error (.error (.nested line error)))
  | panic (text : Option String) : Wraps line (.error (.panic text)) [] (.error (.panic text))

theorem Sound.read_callLine (sound : before.Sound) (text : Text.readInteger? line = none) :
    ∃ system, before.read (callLine line) = .ok (some (callInvocation system line)) := by
  obtain ⟨system, resolved⟩ := sound.resolve_wah SystemModule.callCommand
    (by simp [SystemModule.commands])
  have lineEq : callLine line = "wah" ++ "." ++ "call" ++ " " ++
      ("line" ++ "=" ++ Token.quoted line) := by
    simp [callLine, ← String.toList_inj]
  have validWah : isValidName "wah" = true := by decide
  have validCall : isValidName "call" = true := by decide
  have validKey : isValidName "line" = true := by decide
  refine ⟨system, ?_⟩
  rw [lineEq, read_quoted_argument validWah validCall validKey, Value.ofRaw, text]
  exact bind_eq_ok_iff.2 ⟨_, resolved, bind_eq_ok_iff.2 ⟨(), rfl, rfl⟩⟩

theorem calm_print {evaluate : String → Session → Task signals (Outcome (Option Value))}
    {value : Value} {replied : Outcome (Except ShellError Unit)}
    (prints : Yields (reply evaluate session (.print value)) exchanges replied)
    (calm : Calm exchanges) :
    exchanges = [⟨.present (.value value), .shown⟩] ∧ replied = (session, .ok (.ok ())) := by
  obtain ⟨delivery, later, rfl, answered⟩ := yields_ask_iff.1 prints
  obtain rfl : delivery = .shown := calm _ List.mem_cons_self
  obtain ⟨rfl, rfl⟩ := yields_done_iff.1 answered
  exact ⟨rfl, rfl⟩

/-- The conversation of `call` is that of the line and then, if all went well, what it shows. -/
theorem wraps_of_runHandler {info : ModuleInfo} {ended : Outcome Value}
    (runs : Yields (runHandler (evaluate levels) before (SystemModule.callCommand.handler info
      (Bundle.withArgument {} "line" (.plainText line)))) exchanges ended)
    (calm : Calm exchanges) :
    ∃ first announced evaluated, exchanges = first ++ announced ∧
      Yields (evaluate levels line before) first (ended.1, evaluated) ∧
      Wraps line evaluated (presented announced)
        (ended.2 >>= checkResult SystemModule.callCommand) := by
  rcases yields_runHandler_ask_iff.1 runs with
    ⟨changed, failure, replies, rfl⟩ | ⟨first, changed, answer, second, rfl, replies, resumed⟩
  · obtain ⟨⟨between, (error | text) | value?⟩, evaluates, handedBack⟩ :=
      yields_reply_call_iff.1 replies
    · cases handedBack
    · cases handedBack
      exact ⟨exchanges, [], _, (List.append_nil _).symm, evaluates, .panic text⟩
    · cases handedBack
  · obtain ⟨⟨between, (error | text) | value?⟩, evaluates, handedBack⟩ :=
      yields_reply_call_iff.1 replies
    · cases handedBack
      obtain ⟨rfl, rfl⟩ := yields_done_iff.1 resumed
      exact ⟨first, [], _, rfl, evaluates, .error error⟩
    · cases handedBack
    · cases handedBack
      have calmSecond : Calm second := fun exchange listed =>
        calm exchange (List.mem_append_right _ listed)
      rcases yields_runHandler_ask_iff.1 resumed with
        ⟨changed, failure, prints, rfl⟩ | ⟨shown, changed, answer, last, rfl, prints, ended⟩
      · cases (calm_print prints calmSecond).2
      · have calmShown : Calm shown := fun exchange listed =>
          calmSecond exchange (List.mem_append_left _ listed)
        obtain ⟨rfl, ⟨⟩⟩ := calm_print prints calmShown
        obtain ⟨rfl, rfl⟩ := yields_done_iff.1 ended
        exact ⟨first, _, _, rfl, evaluates, .value value?⟩

/-- A shallow evaluation of `call` contains the one that the line has by itself. -/
theorem wraps_of_evaluate {system : Module} {wrapped : Except Failure (Option Value)}
    (reads : before.read (callLine line) = .ok (some (callInvocation system line)))
    (calm : Calm exchanges)
    (shallow : Shallow ⟨0, ⟨.line maxCallDepth (callLine line), before⟩, exchanges ++ rest⟩)
    (evaluates : Yields (evaluate maxCallDepth (callLine line) before) exchanges
      (changed, wrapped)) :
    ∃ first items evaluated, Calm first ∧ presented exchanges = presented first ++ items ∧
      Yields (evaluate maxCallDepth line before) first (changed, evaluated) ∧
      Wraps line evaluated items wrapped := by
  have asked := evaluates
  rw [maxCallDepth, evaluate_of_read 63 reads] at asked
  obtain ⟨isCancelled, later, rfl, -⟩ := yields_ask_iff.1 asked
  obtain ⟨uncancelled, calmLater⟩ := List.forall_mem_cons.1 calm
  obtain rfl : isCancelled = false := uncancelled
  obtain ⟨ended, runs, same⟩ := (yields_evaluate_iff reads).1 evaluates
  cases same
  obtain ⟨first, announced, evaluated, rfl, nested, wraps⟩ := wraps_of_runHandler runs calmLater
  refine ⟨first, presented announced, evaluated, (List.forall_mem_append.1 calmLater).1,
    presented_append first announced, ?_, wraps⟩
  rw [List.cons_append, List.append_assoc] at shallow
  have entered := shallow.later (.single (.invoke reads))
  have called : Shallow ⟨1, ⟨.line 63 line, before⟩, first ++ (announced ++ rest)⟩ :=
    entered.later (.single .call)
  exact yields_evaluate_succ 63 line before first _ 1 _ called nested

theorem callsAtMost_announce (answer : Except ShellError Value) :
    CallsAtMost 0 (do
      let value ← Handler.ofExcept answer
      Handler.print (.text "Call Results:" .gray)
      return value : Handler Value) := by
  cases answer with
  | error error => exact .done 0 _
  | ok value =>
      have printed (shown : Except ShellError Unit) : CallsAtMost 0 (do
          Handler.ofExcept shown
          return value : Handler Value) := by
        cases shown <;> exact .done 0 _
      change CallsAtMost (Handler.calls [.print (.text "Call Results:" .gray)] + 0)
        (.ask (.print (.text "Call Results:" .gray)) _)
      exact .ask printed

/-- `call` is shallow with a line whose handler makes no calls. -/
theorem shallow_callLine {system : Module} {invocation : Invocation}
    (calls : before.read (callLine line) = .ok (some (callInvocation system line)))
    (reads : before.read line = .ok (some invocation))
    (none : CallsAtMost 0 (invocation.command.handler invocation.owner.info invocation.bundle)) :
    Shallow ⟨0, ⟨.line maxCallDepth (callLine line), before⟩, exchanges⟩ := by
  refine shallow_of_read calls fun later => ?_
  refine shallow_of_call ?_ callsAtMost_announce
  exact shallow_of_read reads fun later => shallow_of_callsAtMost none

end Call

section Agreement

/-- The result that a step has if nobody cancels it. -/
def judgement : Except Failure (Option Value) → Except ShellError (Option Value)
  | .ok value? => .ok value?
  | .error (.error error) => .error error
  | .error (.panic text) => .error (.panicked (text.getD unknownPanic))

theorem judgement_of_calm {evaluated : Except Failure (Option Value)}
    {result : Except ShellError (Option Value)}
    (judged : Yields (verdict evaluated) exchanges result) (calm : Calm exchanges) :
    result = judgement evaluated := by
  rcases evaluated with (error | text) | value?
  · exact (yields_verdict_error judged).2
  · exact (yields_verdict_panic judged).2
  · obtain ⟨isSet, rfl, rfl⟩ := yields_verdict_ok judged
    obtain rfl : isSet = false := calm _ List.mem_cons_self
    rfl

theorem isAbort_nested {error : ShellError} (unpanicked : ∀ text, error ≠ .panicked text) :
    (ShellError.nested line error).isAbort = error.isAbort := by
  rw [Bool.eq_iff_iff, isAbort_iff, isAbort_iff]
  constructor
  · rintro (cause | ⟨text, ⟨⟩⟩)
    exact .inl cause
  · rintro (cause | ⟨text, rfl⟩)
    · exact .inl cause
    · exact absurd rfl (unpanicked text)

/-- `call` aborts a step if the line does. -/
theorem Wraps.abort_eq {evaluated wrapped : Except Failure (Option Value)}
    {items : List Presentation} (wraps : Wraps line evaluated items wrapped)
    (unpanicked : ∀ text, evaluated ≠ .error (.error (.panicked text))) :
    step.abort (judgement wrapped) = step.abort (judgement evaluated) := by
  cases wraps with
  | value => rfl
  | panic => rfl
  | error error =>
      refine isAbort_nested fun text same => unpanicked text ?_
      rw [same]

/-- Two steps leave the same behind, apart from the value that they remember. -/
structure SameEffect (first second : Session) : Prop where
  registry : first.registry = second.registry
  macros : first.macros = second.macros
  exitRequested : first.exitRequested = second.exitRequested

theorem sameEffect_remember (session : Session) (first second : Except ShellError (Option Value)) :
    SameEffect (session.remember first) (session.remember second) := by
  unfold remember
  split <;> split <;> exact ⟨rfl, rfl, rfl⟩

/-- Steps settle alike if both of their results are aborts or neither is. -/
theorem Settles.sameEffect {firstAfter secondAfter : Session}
    {first second : Except ShellError (Option Value)}
    {firstStored secondStored : List (Exchange signals)}
    (settles : Settles before changed first firstStored firstAfter)
    (others : Settles before changed second secondStored secondAfter)
    (same : step.abort first = step.abort second) : SameEffect firstAfter secondAfter := by
  cases settles with
  | aborts abort =>
      cases others with
      | aborts => exact ⟨rfl, rfl, rfl⟩
      | commits commit => cases (abort.symm.trans same).trans commit
  | commits commit =>
      cases others with
      | aborts abort => cases (commit.symm.trans same).trans abort
      | commits => exact sameEffect_remember changed first second

/-- What the step of `call` and a line has in common with the step of the line itself, and in what
they differ. -/
structure Agrees (line : String) (plain called : List (Exchange signals))
    (plainEnd calledEnd : Session × Except ShellError (Option Value)) : Prop where
  effect : SameEffect calledEnd.1 plainEnd.1
  persisted : persisted called = persisted plain
  value : ∀ value?, plainEnd.2 = .ok value? →
    calledEnd.2 = .ok (some (value?.getD .none)) ∧
      presented called = presented plain ++ [callResults]
  error : ∀ error, plainEnd.2 = .error error → (∀ text, error ≠ .panicked text) →
    calledEnd.2 = .error (.nested line error) ∧ presented called = presented plain
  panic : ∀ text, plainEnd.2 = .error (.panicked text) →
    calledEnd.2 = .error (.panicked text) ∧ presented called = presented plain

theorem agrees_of_calm {system : Module} {plain called : List (Exchange signals)}
    {plainEnd calledEnd : Session × Except ShellError (Option Value)}
    (reads : before.read (callLine line) = .ok (some (callInvocation system line)))
    (calm : Calm plain) (calmCalled : Calm called)
    (steps : Yields (step line before) plain plainEnd)
    (calls : Yields (step (callLine line) before) called calledEnd)
    (shallow : Shallow ⟨0, ⟨.line maxCallDepth (callLine line), before⟩, called⟩)
    (unpanicked : ∀ during changed text, during <+: plain →
      ¬ Yields (evaluate maxCallDepth line before) during
        (changed, .error (.error (.panicked text)))) :
    Agrees line plain called plainEnd calledEnd := by
  obtain ⟨after, result⟩ := plainEnd
  obtain ⟨calledAfter, calledResult⟩ := calledEnd
  have stored := persisted_step steps
  have calledStored := persisted_step calls
  obtain ⟨during, _, evaluated, asked, later, rfl, evaluates, judged, settles⟩ := yields_step steps
  obtain ⟨calledDuring, changed, wrapped, calledAsked, calledLater, rfl, calledEvaluates,
    calledJudged, calledSettles⟩ := yields_step calls
  obtain ⟨calmDuring, calmRest⟩ := List.forall_mem_append.1 calm
  obtain ⟨calmCalledDuring, calmCalledRest⟩ := List.forall_mem_append.1 calmCalled
  obtain ⟨first, items, _, calmFirst, shows, again, wraps⟩ :=
    wraps_of_evaluate reads calmCalledDuring shallow calledEvaluates
  obtain ⟨rfl, same⟩ :=
    Calm.unique evaluates again calmDuring calmFirst (evaluate_storesNothing evaluates)
  cases same
  obtain rfl := judgement_of_calm judged (List.forall_mem_append.1 calmRest).1
  obtain rfl := judgement_of_calm calledJudged (List.forall_mem_append.1 calmCalledRest).1
  have never : ∀ text, evaluated ≠ .error (.error (.panicked text)) := by
    rintro text rfl
    exact unpanicked during _ text (List.prefix_append ..) evaluates
  have effect := calledSettles.sameEffect settles (wraps.abort_eq never)
  have storedEq := calledStored.trans ((congrArg _ effect.macros).trans stored.symm)
  have shown : presented (calledDuring ++ (calledAsked ++ calledLater)) =
      presented (during ++ (asked ++ later)) ++ items := by
    simp only [presented_append, presented_of_verdict judged, presented_of_verdict calledJudged,
      settles.presented, calledSettles.presented, shows, List.append_nil]
  cases wraps with
  | value value? =>
      refine ⟨effect, storedEq, ?_, nofun, nofun⟩
      rintro _ ⟨⟩
      exact ⟨rfl, shown⟩
  | error error =>
      rw [List.append_nil] at shown
      refine ⟨effect, storedEq, nofun, ?_, ?_⟩
      · rintro _ ⟨⟩ -
        exact ⟨rfl, shown⟩
      · rintro text ⟨⟩
        exact absurd rfl (never text)
  | panic text =>
      rw [List.append_nil] at shown
      refine ⟨effect, storedEq, nofun, ?_, ?_⟩
      · rintro _ ⟨⟩ unlike
        exact absurd rfl (unlike _)
      · rintro _ ⟨⟩
        exact ⟨rfl, shown⟩

end Agreement

/-- A line makes no difference to what it does when `call` runs it, as long as no line is without a
level and no handler returns the error of a panic.  What `call` adds is a layer around an error and
what it shows after a value. -/
structure CallsTransparently (line : String) (before : Session) : Prop where
  /-- Either step has a conversation that leaves it alone. -/
  executes : ∃ plain ended, Calm plain ∧ Yields (step line before) plain ended
  calls : ∃ called ended, Calm called ∧ Yields (step (callLine line) before) called ended
  agrees : ∀ plain called plainEnd calledEnd, Calm plain → Calm called →
    Yields (step line before) plain plainEnd →
    Yields (step (callLine line) before) called calledEnd →
    Shallow ⟨0, ⟨.line maxCallDepth (callLine line), before⟩, called⟩ →
    (∀ during changed text, during <+: plain →
      ¬ Yields (evaluate maxCallDepth line before) during
        (changed, .error (.error (.panicked text)))) →
    Agrees line plain called plainEnd calledEnd

theorem callsTransparently_of_reachable (catalog : Catalog) (assembled : catalog.Assembled)
    (session : Session) (reachable : Reachable catalog session) (line : String)
    (text : Text.readInteger? line = none) : CallsTransparently line session where
  executes := exists_calm (step line session)
  calls := exists_calm (step (callLine line) session)
  agrees plain called plainEnd calledEnd calm calmCalled steps calls shallow unpanicked := by
    have sound := sound_of_reachable assembled reachable
    obtain ⟨system, reads⟩ := sound.read_callLine text
    exact agrees_of_calm reads calm calmCalled steps calls shallow unpanicked

/-- A new session does with `wah!` what it says. -/
theorem agrees_of_shout : (∅ : Catalog).Assembled ∧ ∃ session, Reachable ∅ session ∧
    Text.readInteger? "wah!" = none ∧
    ∃ plain called plainEnd calledEnd, Calm plain ∧ Calm called ∧
      Yields (step "wah!" session) plain plainEnd ∧
      Yields (step (callLine "wah!") session) called calledEnd ∧
      plainEnd.2 = .ok (some (.plainText "Wah!")) ∧
      Agrees "wah!" plain called plainEnd calledEnd := by
  have assembled : (∅ : Catalog).Assembled := nofun
  obtain ⟨session, created⟩ : ∃ session, Session.new ∅ = .ok session := ⟨_, rfl⟩
  have reachable : Reachable ∅ session := .new created
  have text : Text.readInteger? "wah!" = none := by decide
  have resolved : ∃ system, session.registry.resolve (.bare "wah!") =
      .ok (system, SystemModule.shoutCommand) := by
    cases created
    exact ⟨_, rfl⟩
  obtain ⟨system, resolved⟩ := resolved
  have reads := read_name (by decide) resolved rfl
  have transparent := callsTransparently_of_reachable ∅ assembled session reachable "wah!" text
  obtain ⟨plain, plainEnd, calm, steps⟩ := transparent.executes
  obtain ⟨called, calledEnd, calmCalled, calls⟩ := transparent.calls
  obtain ⟨_, callReads⟩ := (sound_of_reachable assembled reachable).read_callLine text
  have shallow : Shallow ⟨0, ⟨.line maxCallDepth (callLine "wah!"), session⟩, called⟩ :=
    shallow_callLine callReads reads (.done 0 _)
  have unpanicked : ∀ during changed text, during <+: plain →
      ¬ Yields (evaluate maxCallDepth "wah!" session) during
        (changed, .error (.error (.panicked text))) := by
    intro during changed text _ evaluates
    rw [maxCallDepth, evaluate_of_read 63 reads] at evaluates
    obtain ⟨isCancelled, later, -, resumed⟩ := yields_ask_iff.1 evaluates
    cases isCancelled <;> cases (yields_done_iff.1 resumed).2
  have executes : Executes "wah!" session
      { session with previous := some (.plainText "Wah!") } (.ok (some (.plainText "Wah!"))) :=
    executes_of_read reads rfl rfl
  have ended : plainEnd.2 = .ok (some (.plainText "Wah!")) := by
    rw [executes.every plain plainEnd calm.uncancelled steps]
  have agrees := transparent.agrees plain called plainEnd calledEnd calm calmCalled steps calls
    shallow unpanicked
  exact ⟨assembled, session, reachable, text, plain, called, plainEnd, calledEnd, calm, calmCalled,
    steps, calls, ended, agrees⟩

end Session
end CommandShell
