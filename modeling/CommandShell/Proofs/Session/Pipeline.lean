import CommandShell.Proofs.Session.Guarding
import CommandShell.Proofs.Session.NetChange
import CommandShell.Proofs.Session.Nesting

/-!
# The stages around a handler

A line reaches a handler only through all stages of reading, and what the handler ends
with is checked once more.  A line that fails at one of the stages is refused: no handler
runs, and all that comes of it, at the top and in a call, is the error of the earliest
stage that fails.
-/

namespace CommandShell
namespace Session

open CommandShell.Task (Yields yields_ask_iff yields_bind_iff yields_done_iff)

variable {session : Session} {line : String}

section Answers

/-- What a line can come to if it ends well: nothing if it is blank, and a value of the
kind that the command declares if it invokes one. -/
def Answers (session : Session) (line : String) : Option Value → Prop
  | none => session.read line = .ok none
  | some value => ∃ invocation, session.read line = .ok (some invocation) ∧
      ∀ kind, invocation.command.returns = some kind → value.kind = kind

variable {levels : Nat} {exchanges : List (Exchange signals)} {changed after : Session}
variable {value? : Option Value} {value : Value}

theorem answers_of_checkResult {invocation : Invocation}
    (reads : session.read line = .ok (some invocation))
    (checked : checkResult invocation.command value = .ok value?) :
    Answers session line value? := by
  unfold checkResult at checked
  split at checked
  · next expected declared =>
      split at checked
      · next same =>
          cases checked
          refine ⟨invocation, reads, fun kind declaredKind => ?_⟩
          exact same.trans (Option.some.inj (declared.symm.trans declaredKind))
      · cases checked
  · next undeclared =>
      cases checked
      exact ⟨invocation, reads, fun kind declared => nomatch undeclared.symm.trans declared⟩

/-- A value that an evaluation ends with has been checked. -/
theorem ensures_answers (levels : Nat) (line : String) (session : Session) :
    Task.Ensures (I := signals) (fun signal => ¬ signal.Stores)
      (fun outcome => ∀ value?, outcome.2 = .ok value? → Answers session line value?)
      (evaluate levels line session) := by
  cases levels with
  | zero => exact nofun
  | succ levels =>
      refine ⟨id, fun isCancelled => ?_⟩
      cases isCancelled with
      | true => exact nofun
      | false =>
          cases reads : session.read line with
          | error error => exact nofun
          | ok invocation? =>
              cases invocation? with
              | none =>
                  rintro _ ⟨⟩
                  exact reads
              | some invocation =>
                  refine (quiet_runHandler (quiet_evaluate levels) session _).bind
                    fun outcome _ => ?_
                  obtain ⟨changed, failure | result⟩ := outcome
                  · exact nofun
                  · exact fun value? checked => answers_of_checkResult reads checked

theorem answers_of_evaluate
    (evaluates : Yields (evaluate levels line session) exchanges (changed, .ok value?)) :
    Answers session line value? :=
  ((ensures_answers levels line session).of_yields evaluates).2 value? rfl

theorem answers_of_step (steps : Yields (step line session) exchanges (after, .ok value?)) :
    Answers session line value? := by
  obtain ⟨_, _, evaluated, _, _, -, evaluates, judged, -⟩ := yields_step steps
  rcases evaluated with (error | text) | value?
  · cases (yields_verdict_error judged).2
  · cases (yields_verdict_panic judged).2
  · obtain ⟨isSet, -, resultEq⟩ := yields_verdict_ok judged
    cases isSet with
    | true => cases resultEq
    | false =>
        cases resultEq
        exact answers_of_evaluate evaluates

/-- The value that a handler gets from a line that it calls. -/
theorem answers_of_reply
    (replies : Yields (reply (evaluate levels) session (.call line)) exchanges
      (changed, .ok (.ok value))) :
    ∃ value?, Answers session line value? ∧ value = value?.getD .none := by
  obtain ⟨⟨_, (error | text) | value?⟩, evaluates, ended⟩ := yields_reply_call_iff.1 replies
  · cases ended
  · cases ended
  · cases ended
    exact ⟨value?, answers_of_evaluate evaluates, rfl⟩

end Answers

section Refusals

/-- End with an error, or as cancelled if the step has been cancelled. -/
def endWith {α : Type} (session : Session) (ending : ShellError → α) (error : ShellError) :
    Task signals (Session × α) := do
  if ← cancelled then
    return (session, ending .cancelled)
  return (session, ending error)

variable {error : ShellError}

theorem evaluate_of_read_error (levels : Nat) (fails : session.read line = .error error) :
    evaluate (levels + 1) line session =
      endWith session (fun error => .error (.error error)) error := by
  rw [evaluate]
  generalize session.read line = invocation? at fails ⊢
  subst fails
  rfl

theorem reply_of_read_error (levels : Nat) (fails : session.read line = .error error) :
    reply (evaluate (levels + 1)) session (.call line) =
      endWith session (fun error => .ok (.error (.nested line error))) error := by
  rw [reply, evaluate_of_read_error levels fails, endWith, endWith, bind_assoc]
  refine bind_congr fun isCancelled => ?_
  cases isCancelled <;> rfl

theorem call_of_read_error (fails : session.read line = .error error) :
    call line session = endWith session (fun error => .error (.error error)) error := by
  rw [call, maxCallDepth, evaluate_of_read_error 63 fails, endWith, endWith, bind_assoc]
  refine bind_congr fun isCancelled => ?_
  cases isCancelled <;> rfl

theorem step_of_read_error (fails : session.read line = .error error) :
    step line session = (do
      if ← cancelled then
        return (rollBack session session, .error .cancelled)
      return (session, .error error)) := by
  rw [step_eq, maxCallDepth, evaluate_of_read_error 63 fails, endWith, bind_assoc]
  refine bind_congr fun isCancelled => ?_
  cases isCancelled with
  | true => rfl
  | false =>
      have commit : step.abort (.error error : Except ShellError (Option Value)) = false :=
        isAbort_of_read fails
      have verdictEq : verdict (.error (.error error)) = .done (.error error) := rfl
      simp only [Bool.false_eq_true, if_false, pure_bind, conclude, verdictEq, Task.done_bind,
        commit, MacroTable.changes_self]
      rfl

/-- A line is refused with an error.  No handler runs, and wherever the line is evaluated, the
session stays as it is and nothing is asked of the surroundings but whether the step has been
cancelled.  If it has not, the error is all that comes of the line. -/
structure Refuses (session : Session) (line : String) (error : ShellError) : Prop where
  enters : ∀ levels next, ¬ Enters ⟨.line levels line, session⟩ next
  evaluates : ∀ levels, evaluate (levels + 1) line session =
    endWith session (fun error => .error (.error error)) error
  replies : ∀ levels, reply (evaluate (levels + 1)) session (.call line) =
    endWith session (fun error => .ok (.error (.nested line error))) error
  calls : call line session = endWith session (fun error => .error (.error error)) error
  steps : step line session = (do
    if ← cancelled then
      return (rollBack session session, .error .cancelled)
    return (session, .error error))
  runs : ∀ exchanges after outcome, Yields (run line session) exchanges (after, outcome) →
    ⟨.observe, true⟩ ∉ exchanges → after = session ∧
      (exchanges.map Sigma.fst = [.present (.echo line)] ∧ (∃ failure, outcome = .error failure) ∨
        exchanges.map Sigma.fst =
            [.present (.echo line), .observe, .present (.report error)] ∧
          (outcome = .ok (.error error) ∨ ∃ failure, outcome = .error failure))

theorem refuses_of_read_error (fails : session.read line = .error error) :
    Refuses session line error where
  enters levels next enters := by
    cases enters with
    | invoke reads => cases fails.symm.trans reads
  evaluates levels := evaluate_of_read_error levels fails
  replies levels := reply_of_read_error levels fails
  calls := call_of_read_error fails
  steps := step_of_read_error fails
  runs exchanges after outcome runs uncancelled := by
    rcases yields_run_or runs with
      ⟨echoed, sessionEq, failed⟩ | ⟨echoed, ran, shown, result, rfl, echo, steps, shows, ends⟩
    · exact ⟨sessionEq, .inl ⟨echoed, failed⟩⟩
    · rw [step_of_read_error fails] at steps
      obtain ⟨isCancelled, later, rfl, ended⟩ := yields_ask_iff.1 steps
      cases isCancelled with
      | true => simp at uncancelled
      | false =>
          obtain ⟨rfl, ⟨⟩⟩ := yields_done_iff.1 ended
          refine ⟨rfl, .inr ⟨?_, ends⟩⟩
          rw [List.map_append, List.map_append, echo, shows]
          rfl

end Refusals

/-- What stands before the handlers, whatever line is evaluated in whatever session. -/
structure Guarded (session : Session) (line : String) : Prop where
  /-- No handler gets a bundle that breaks the rules: there could be any other handlers for
  such bundles. -/
  substitutes : ∀ substitute levels, evaluate levels line (session.guard substitute) =
    guardOutcome substitute <$> evaluate levels line session
  invokes : ∀ levels next, Enters ⟨.line levels line, session⟩ next →
    ∃ below invocation, levels = below + 1 ∧ session.read line = .ok (some invocation) ∧
      next = ⟨.handler below (invocation.command.handler invocation.owner.info
        invocation.bundle), session⟩ ∧
      ∀ rule ∈ invocation.command.rules, rule.holds invocation.bundle = true
  evaluates : ∀ levels exchanges changed value?,
    Yields (evaluate levels line session) exchanges (changed, .ok value?) →
      Answers session line value?
  replies : ∀ levels exchanges changed value,
    Yields (reply (evaluate levels) session (.call line)) exchanges (changed, .ok (.ok value)) →
      ∃ value?, Answers session line value? ∧ value = value?.getD .none
  steps : ∀ exchanges after value?,
    Yields (step line session) exchanges (after, .ok value?) → Answers session line value?
  /-- If stages of reading fail, the line is refused with the error of the first of them. -/
  refuses : ∀ phase error, session.failure? line phase = some error →
    ∃ first, Phase.order.findSome? (session.failure? line) = some first ∧
      Refuses session line first

theorem guarded_line (session : Session) (line : String) : Guarded session line where
  substitutes substitute levels := evaluate_guard levels line session
  invokes levels next enters := by
    cases enters with
    | @invoke below line session invocation reads =>
        obtain ⟨_, _, -, -, -, obeyed⟩ := read_eq_ok_some_iff.1 reads
        exact ⟨below, invocation, rfl, reads, rfl, checkRules_eq_ok_iff.1 obeyed⟩
  evaluates levels exchanges changed value? := answers_of_evaluate
  replies levels exchanges changed value := answers_of_reply
  steps exchanges after value? := answers_of_step
  refuses phase error fails := by
    have found : (Phase.order.findSome? (session.failure? line)).isSome = true := by
      rw [List.findSome?_isSome_iff]
      refine ⟨phase, ?_, Option.isSome_of_eq_some fails⟩
      cases phase <;> decide
    obtain ⟨first, firstEq⟩ := Option.isSome_iff_exists.1 found
    exact ⟨first, firstEq, refuses_of_read_error (read_eq_error_iff.2 firstEq)⟩

/-- The error is that of the name, also where what follows the name makes no bundle. -/
theorem refuses_of_unknown_name :
    (ofHandler (pure .none)).failure? "nope =" .resolving = some (.noSuchCommand "nope") ∧
      (ofHandler (pure .none)).failure? "nope =" .building = some (.unexpectedToken "=") ∧
      Refuses (ofHandler (pure .none)) "nope =" (.noSuchCommand "nope") := by
  have tokenized : tokenize "nope =" = .ok [.word "nope", .assign] := by rfl
  have headed : (ofHandler (pure .none)).headOf? "nope =" = some (.bare "nope", [.assign]) := by
    rw [headOf?, tokensOf, tokenized]
    rfl
  have resolving : (ofHandler (pure .none)).failure? "nope =" .resolving =
      some (.noSuchCommand "nope") := by
    rw [failure?, headed]
    rfl
  have building : (ofHandler (pure .none)).failure? "nope =" .building =
      some (.unexpectedToken "=") := by
    rw [failure?, headed]
    simp [Bundle.ofTokens, Bundle.readItems, errorOf?, Token.text]
  refine ⟨resolving, building, ?_⟩
  -- the later failure makes the line refused, and the earlier stages decide with which error
  obtain ⟨first, firstEq, refuses⟩ :=
    (guarded_line (ofHandler (pure .none)) "nope =").refuses .building _ building
  have tokenizing : (ofHandler (pure .none)).failure? "nope =" .tokenizing = none := by
    rw [failure?, tokenized]
    rfl
  have expanding : (ofHandler (pure .none)).failure? "nope =" .expanding = none := by
    rw [failure?, tokenized]
    rfl
  have splitting : (ofHandler (pure .none)).failure? "nope =" .splitting = none := by
    rw [failure?, tokensOf, tokenized]
    rfl
  simp only [Phase.order, List.findSome?_cons, tokenizing, expanding, splitting,
    resolving] at firstEq
  cases firstEq
  exact refuses

end Session
end CommandShell
