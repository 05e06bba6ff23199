import CommandShell.Proofs.Line.Derivation
import CommandShell.Proofs.Session.Nesting
import CommandShell.Proofs.Session.Operation
import CommandShell.Proofs.Session.Pipeline

/-!
# The previous output

A session remembers the value of the last step that ended with one.  A `Turn` is an
operation together with how its step ended, if it makes one, and `Takes` says which turns
a session can take.  Over any sequence of turns the previous output is the value of the
last turn that has one; all other turns, and everything that happens while a line is
evaluated, leave it as it is.
-/

namespace CommandShell
namespace Session

open CommandShell.Task (Yields)

/-- An operation, and how its step ended if it made one. -/
structure Turn where
  operation : Operation
  result? : Option (Except ShellError (Option Value))

/-- The value that the step of a turn ended with. -/
def Turn.value? (turn : Turn) : Option Value :=
  match turn.result? with
  | some (.ok value?) => value?
  | some (.error _) | none => none

/-- The turns that a session can take, and the sessions they leave.  The step of a line that is
run lies between the echo and what shows how it ended; an echo that panics takes its place. -/
inductive Takes (before : Session) : Turn → Session → Prop
  | execute {line : String} {exchanges : List (Exchange signals)} {after : Session}
      {result : Except ShellError (Option Value)}
      (steps : Yields (step line before) exchanges (after, result)) :
      Takes before ⟨.execute line, some result⟩ after
  | run {line : String} {echoed ran shown : List (Exchange signals)} {after : Session}
      {result : Except ShellError (Option Value)}
      {outcome : Except Failure (Except ShellError (Option Value))}
      (runs : Yields (run line before) (echoed ++ (ran ++ shown)) (after, outcome))
      (echo : echoed.map Sigma.fst = [.present (.echo line)])
      (steps : Yields (step line before) ran (after, result)) :
      Takes before ⟨.run line, some result⟩ after
  | echo {line : String} {echoed : List (Exchange signals)} {failure : Failure}
      (runs : Yields (run line before) echoed (before, .error failure))
      (echo : echoed.map Sigma.fst = [.present (.echo line)]) :
      Takes before ⟨.run line, none⟩ before
  | stepless {operation : Operation} {exchanges : List (Exchange signals)} {after : Session}
      (stepless : operation.isStep = false)
      (performed : Yields (before.perform operation) exchanges after) :
      Takes before ⟨operation, none⟩ after

/-- Turns that are taken one after the other. -/
inductive Turns (start : Session) : List Turn → Session → Prop
  | start : Turns start [] start
  | next {earlier : List Turn} {turn : Turn} {before after : Session}
      (turns : Turns start earlier before) (takes : Takes before turn after) :
      Turns start (earlier ++ [turn]) after

variable {session before after : Session} {line : String}
variable {exchanges : List (Exchange signals)} {result : Except ShellError (Option Value)}

/-- However an operation turns out, it is a turn. -/
theorem takes_of_perform {operation : Operation}
    (performed : Yields (before.perform operation) exchanges after) :
    ∃ result?, Takes before ⟨operation, result?⟩ after := by
  cases isStep : operation.isStep with
  | false => exact ⟨none, .stepless isStep performed⟩
  | true =>
      cases operation with
      | execute line =>
          obtain ⟨result, steps⟩ := yields_session_iff.1 performed
          exact ⟨some result, .execute steps⟩
      | run line =>
          obtain ⟨outcome, runs⟩ := yields_session_iff.1 performed
          rcases yields_run_or runs with
            ⟨echo, rfl, failure, rfl⟩ | ⟨echoed, ran, shown, result, rfl, echo, steps, -⟩
          · exact ⟨none, .echo runs echo⟩
          · exact ⟨some result, .run runs echo steps⟩
      | _ => cases isStep

theorem previous_of_step (steps : Yields (step line before) exchanges (after, result)) :
    after.previous = (Turn.value? ⟨.execute line, some result⟩).or before.previous := by
  obtain ⟨_, changed, _, _, _, -, evaluates, -, settled⟩ := yields_step steps
  have kept := (changes_of_yields evaluates).previous_eq
  cases settled with
  | aborts abort =>
      cases result with
      | ok value? => cases abort
      | error error => exact kept
  | commits =>
      rcases result with error | _ | value
      · exact kept
      · exact kept
      · rfl

/-- After a turn the previous output is the value of the turn, if it has one. -/
theorem previous_of_takes {turn : Turn} (takes : Takes before turn after) :
    after.previous = turn.value?.or before.previous := by
  cases takes with
  | execute steps => exact previous_of_step steps
  | run _ _ steps => exact previous_of_step steps
  | echo => rfl
  | stepless stepless performed =>
      rcases changes_or_registers stepless performed with changes | ⟨_, _, -, -, rfl⟩
      · exact changes.previous_eq
      · rfl

theorem previous_eq_of_turns {turns : List Turn} {start finish : Session}
    (took : Turns start turns finish) :
    finish.previous = (turns.filterMap Turn.value?).getLast?.or start.previous := by
  induction took with
  | start => rfl
  | @next earlier turn before after _ takes ih =>
      rw [previous_of_takes takes, ih, List.filterMap_append]
      cases valueEq : turn.value? with
      | none => simp [valueEq]
      | some value => simp [valueEq]

/-- Every `^` behind the name in a line stands for a value, if the line is read at all. -/
def Recalls (session : Session) (value? : Option Value) (line : String) : Prop :=
  ∀ invocation, session.read line = .ok (some invocation) →
    ∃ name rest items, session.headOf? line = some (name, rest) ∧
      Bundle.Derives items rest ∧ Bundle.Admissible value? items ∧
      Bundle.Denotes value? items invocation.bundle

theorem recalls_previous (session : Session) (line : String) :
    Recalls session session.previous line := by
  intro invocation reads
  obtain ⟨name, rest, headed, -, built, -⟩ := read_eq_ok_some_iff.1 reads
  obtain ⟨items, derives, means⟩ := Bundle.ofTokens_eq_ok_iff.1 built
  exact ⟨name, rest, items, headed, derives, means⟩

/-- What keeps the previous output of a session, and what it is good for. -/
structure Remembers (session : Session) : Prop where
  turns : ∀ operation exchanges after, Yields (session.perform operation) exchanges after →
    ∃ result?, Takes session ⟨operation, result?⟩ after
  keeps : ∀ turn after, Takes session turn after → turn.value? = none →
    after.previous = session.previous
  blank : ∀ line turn after, Takes session turn after → session.read line = .ok none →
    turn.operation = .execute line ∨ turn.operation = .run line → turn.value? = none
  calls : ∀ line turn after, Takes session turn after → turn.operation = .call line →
    turn.result? = none
  /-- Up to any point of an evaluation nothing has changed the previous output, and a line that
  is read there recalls it. -/
  within : ∀ line point, Within ⟨.line maxCallDepth line, session⟩ point →
    point.session.previous = session.previous ∧
      ∀ levels nested, point.stage = .line levels nested →
        Recalls point.session session.previous nested

theorem value_of_blank (blank : session.read line = .ok none)
    (steps : Yields (step line session) exchanges (after, result)) :
    Turn.value? ⟨.execute line, some result⟩ = none := by
  rcases result with error | _ | value
  · rfl
  · rfl
  · obtain ⟨invocation, reads, -⟩ := answers_of_step steps
    cases blank.symm.trans reads

theorem remembers (session : Session) : Remembers session where
  turns operation exchanges after := takes_of_perform
  keeps turn after takes valueless := by
    rw [previous_of_takes takes, valueless]
    rfl
  blank line turn after takes blank made := by
    cases takes with
    | execute steps =>
        rcases made with made | made <;> cases made
        exact value_of_blank blank steps
    | run _ _ steps =>
        rcases made with made | made <;> cases made
        exact value_of_blank blank steps
    | echo => rfl
    | stepless => rfl
  calls line turn after takes made := by
    cases takes with
    | execute | run | echo => cases made
    | stepless => rfl
  within line point within := by
    have kept : point.session.previous = session.previous :=
      (changes_of_within within).previous_eq
    exact ⟨kept, fun levels nested _ => kept ▸ recalls_previous point.session nested⟩

/-- Over any turns the previous output becomes the value of the last one that has a value, and
the session goes on remembering. -/
theorem previous_of_turns {start finish : Session} {turns : List Turn}
    (took : Turns start turns finish) :
    finish.previous = (turns.filterMap Turn.value?).getLast?.or start.previous ∧
      (∀ catalog, Session.new catalog = .ok start →
        finish.previous = (turns.filterMap Turn.value?).getLast?) ∧
      Remembers finish := by
  have slot := previous_eq_of_turns took
  refine ⟨slot, fun catalog created => ?_, remembers finish⟩
  obtain ⟨_, -, created⟩ := bind_eq_ok_iff.1 created
  obtain ⟨_, -, ⟨⟩⟩ := bind_eq_ok_iff.1 created
  rwa [Option.or_none] at slot

/-- A step with a value, one that fails, and a call. -/
def mixedTurns : List Turn :=
  [⟨.execute "go", some (.ok (some (.integer 1)))⟩,
    ⟨.execute "nope", some (.error (.noSuchCommand "nope"))⟩, ⟨.call "go", none⟩]

/-- Neither the failure nor the call takes the place of the value. -/
theorem previous_of_mixed_turns :
    Turns (ofHandler (pure (.integer 1))) mixedTurns
        { ofHandler (pure (.integer 1)) with previous := some (.integer 1) } ∧
      (mixedTurns.filterMap Turn.value?).getLast? = some (.integer 1) ∧
      Remembers { ofHandler (pure (.integer 1)) with previous := some (.integer 1) } := by
  let start := ofHandler (pure (.integer 1))
  let finish : Session := { start with previous := some (.integer 1) }
  have first : Takes start ⟨.execute "go", some (.ok (some (.integer 1)))⟩ finish := by
    have steps : Yields (step "go" start) [⟨.observe, false⟩, ⟨.observe, false⟩]
        (finish, .ok (some (.integer 1))) := by
      rw [step_of_read (read_ofHandler _)]
      delta runHandler
      exact .ask (.ask (.refl _))
    exact .execute steps
  have second : Takes finish ⟨.execute "nope", some (.error (.noSuchCommand "nope"))⟩ finish := by
    have fails : finish.read "nope" = .error (.noSuchCommand "nope") := rfl
    have steps : Yields (step "nope" finish) [⟨.observe, false⟩]
        (finish, .error (.noSuchCommand "nope")) := by
      rw [step_of_read_error fails]
      exact .ask (.refl _)
    exact .execute steps
  have third : Takes finish ⟨.call "go", none⟩ finish := by
    have reads : finish.read "go" = .ok (some ⟨goModule (pure (.integer 1)),
        goCommand (pure (.integer 1)), {}⟩) := read_name (by decide) rfl rfl
    have performed : Yields (finish.perform (.call "go")) [⟨.observe, false⟩] finish := by
      rw [perform, call, maxCallDepth, evaluate_of_read 63 reads]
      delta runHandler
      exact .ask (.refl _)
    exact .stepless rfl performed
  have took : Turns start mixedTurns finish := .next (.next (.next .start first) second) third
  obtain ⟨slot, -, remembers⟩ := previous_of_turns took
  exact ⟨took, (Option.or_none.symm.trans slot.symm), remembers⟩

end Session
end CommandShell
