import CommandShell.Proofs.Resolution
import CommandShell.Proofs.Session.Nesting
import CommandShell.Proofs.Session.Reading
import CommandShell.Proofs.Session.Tracing
import Mathlib.Order.WellFounded

/-!
# How deep and how many calls go

Entering a handler uses up one call level and nothing gives it back, so the number of handlers
that have been entered and the levels that are left always add up to the same.  This bounds the
depth at which handlers run.  It is also why evaluations end: on the way from point to point
either a level is used up or a handler gets on, and there is no end to neither.

If handlers make at most so many calls each, the calls of a whole step are bounded too.
-/

namespace CommandShell

namespace Handler

def isCall : Request → Bool
  | .call _ => true
  | _ => false

def calls (requests : List Request) : Nat := requests.countP isCall

theorem calls_append (first second : List Request) :
    calls (first ++ second) = calls first + calls second :=
  List.countP_append

/-- Along no conversation does a handler make more calls than the limit. -/
inductive CallsAtMost {α : Type} : (limit : Nat) → Task requests α → Prop
  | done (limit : Nat) (result : α) : CallsAtMost limit (.done result)
  | ask {limit : Nat} {request : requests.Request}
      {resume : requests.Reply request → Task requests α}
      (later : ∀ answer, CallsAtMost limit (resume answer)) :
      CallsAtMost (calls [request] + limit) (.ask request resume)

theorem CallsAtMost.of_ask {α : Type} {limit : Nat} {request : requests.Request}
    {resume : requests.Reply request → Task requests α}
    (atMost : CallsAtMost limit (.ask request resume)) :
    ∃ below, limit = calls [request] + below ∧ ∀ answer, CallsAtMost below (resume answer) := by
  cases atMost with
  | ask later => exact ⟨_, rfl, later⟩

end Handler

/-- The handlers of a module's commands make at most so many calls each time they run. -/
def Module.Frugal (limit : Nat) (module : Module) : Prop :=
  ∀ name command, module.command? name = some command →
    ∀ info bundle, Handler.CallsAtMost limit (command.handler info bundle)

namespace Session

open Handler (CallsAtMost calls calls_append)
open CommandShell.Task (Yields yields_ask_iff yields_bind_iff yields_done_iff yields_map_iff)

section Depth

/-- A point of an evaluation with the number of handlers that have been entered on the way and
with the conversation that is ahead. -/
structure Place where
  depth : Nat
  point : Point
  ahead : List (Exchange signals)

/-- How an evaluation gets from one place to the next.  A call is entered, and it is also a
request that is replied to in the end, which takes a part of the conversation. -/
inductive Proceeds : Place → Place → Prop
  | invoke {depth levels : Nat} {line : String} {session : Session} {invocation : Invocation}
      {ahead : List (Exchange signals)}
      (reads : session.read line = .ok (some invocation)) :
      Proceeds ⟨depth, ⟨.line (levels + 1) line, session⟩, ⟨.observe, false⟩ :: ahead⟩
        ⟨depth + 1, ⟨.handler levels (invocation.command.handler invocation.owner.info
          invocation.bundle), session⟩, ahead⟩
  | call {depth levels : Nat} {line : String} {session : Session}
      {resume : Except ShellError Value → Task Handler.requests (Except Failure Value)}
      {ahead : List (Exchange signals)} :
      Proceeds ⟨depth, ⟨.handler levels (.ask (.call line) resume), session⟩, ahead⟩
        ⟨depth, ⟨.line levels line, session⟩, ahead⟩
  | resume {depth levels : Nat} {request : Handler.Request} {answer : request.Reply}
      {resume : request.Reply → Task Handler.requests (Except Failure Value)}
      {session changed : Session} {exchanges ahead : List (Exchange signals)}
      (replied : Yields (reply (evaluate levels) session request) exchanges
        (changed, .ok answer)) :
      Proceeds ⟨depth, ⟨.handler levels (.ask request resume), session⟩, exchanges ++ ahead⟩
        ⟨depth, ⟨.handler levels (resume answer), changed⟩, ahead⟩

abbrev Visits : Place → Place → Prop := Relation.ReflTransGen Proceeds

/-- The call levels that are left for what is evaluated at a stage. -/
def Stage.levels : Stage → Nat
  | .line levels _ => levels
  | .handler levels _ => levels

/-- A handler has been entered by the time it runs. -/
def Stage.entered : Stage → Nat
  | .line .. => 0
  | .handler .. => 1

variable {place next : Place} {line : String} {before : Session}
variable {exchanges : List (Exchange signals)}

/-- A level that is used up is one more in depth. -/
theorem Proceeds.depth_add_levels (proceeds : Proceeds place next) :
    next.depth + next.point.stage.levels = place.depth + place.point.stage.levels := by
  cases proceeds with
  | @invoke depth levels =>
      have usedUp : depth + 1 + levels = depth + (levels + 1) := by omega
      exact usedUp
  | call | resume => rfl

theorem Proceeds.entered_le_depth (proceeds : Proceeds place next)
    (entered : place.point.stage.entered ≤ place.depth) :
    next.point.stage.entered ≤ next.depth := by
  cases proceeds with
  | invoke => exact Nat.le_add_left ..
  | call => exact Nat.zero_le _
  | resume => exact entered

/-- At every place the depth and the levels that are left add up to the levels at the start. -/
theorem Visits.depth_add_levels (visits : Visits place next) :
    next.depth + next.point.stage.levels = place.depth + place.point.stage.levels := by
  induction visits with
  | refl => rfl
  | tail _ proceeds ih => exact proceeds.depth_add_levels.trans ih

theorem Visits.entered_le_depth (visits : Visits place next)
    (entered : place.point.stage.entered ≤ place.depth) :
    next.point.stage.entered ≤ next.depth := by
  induction visits with
  | refl => exact entered
  | tail _ proceeds ih => exact proceeds.entered_le_depth ih

/-- The handler of the line itself runs at depth one, and none runs deeper than the limit. -/
theorem depth_of_handler {levels : Nat}
    {task : Task Handler.requests (Except Failure Value)} {session : Session}
    {ahead : List (Exchange signals)} {depth : Nat}
    (visits : Visits ⟨0, ⟨.line maxCallDepth line, before⟩, exchanges⟩
      ⟨depth, ⟨.handler levels task, session⟩, ahead⟩) :
    1 ≤ depth ∧ depth ≤ maxCallDepth ∧ depth + levels = maxCallDepth := by
  have entered : 1 ≤ depth := visits.entered_le_depth (Nat.le_refl 0)
  have total : depth + levels = 0 + maxCallDepth := visits.depth_add_levels
  omega

end Depth

section Ending

/-- No endless way leads on from a point. -/
abbrev Ends : Point → Prop := Acc fun next point => Enters point next

/-- A handler ends if the lines do that it calls.  The induction is on what is left of it. -/
theorem ends_handler {levels : Nat} (lines : ∀ line session, Ends ⟨.line levels line, session⟩)
    (task : Task Handler.requests (Except Failure Value)) (session : Session) :
    Ends ⟨.handler levels task, session⟩ := by
  induction task generalizing session with
  | done result =>
      apply Acc.intro
      intro next enters
      cases enters
  | ask request resume ih =>
      apply Acc.intro
      intro next enters
      cases enters with
      | call => exact lines _ session
      | @resume _ _ answer _ _ changed => exact ih answer changed

/-- A line ends, as it uses up a level.  The induction is on the levels that are left. -/
theorem ends_line (levels : Nat) (line : String) (session : Session) :
    Ends ⟨.line levels line, session⟩ := by
  induction levels generalizing line session with
  | zero =>
      apply Acc.intro
      intro next enters
      cases enters
  | succ levels ih =>
      apply Acc.intro
      intro next enters
      cases enters with
      | invoke => exact ends_handler ih _ session

theorem wellFounded_enters : WellFounded fun next point => Enters point next := by
  constructor
  rintro ⟨stage, session⟩
  cases stage with
  | line levels line => exact ends_line levels line session
  | handler levels task => exact ends_handler (ends_line levels) task session

theorem exists_not_enters (points : Nat → Point) : ∃ n, ¬ Enters (points n) (points (n + 1)) := by
  have wellFounded : IsWellFounded Point fun next point => Enters point next :=
    ⟨wellFounded_enters⟩
  exact WellFounded.not_rel_apply_succ (r := fun next point => Enters point next) points

end Ending

section Budget

/-- All handlers that a session can come to run make at most so many calls each. -/
structure Frugal (limit : Nat) (session : Session) : Prop where
  loaded : ∀ key module, session.registry.find? key = some module → module.Frugal limit
  loadable : ∀ library modules, session.catalog.instantiate library = .ok modules →
    ∀ module ∈ modules, module.Frugal limit

/-- The calls of a line whose handlers make at most so many calls each: those of its own handler
and those of each line that is called. -/
def callBudget (limit : Nat) : (levels : Nat) → Nat
  | 0 => 0
  | levels + 1 => limit * (1 + callBudget limit levels)

variable {limit levels : Nat} {line : String} {before session after : Session}
variable {exchanges : List (Exchange signals)}

theorem Frugal.change {assignable : MacroTable → Prop} (frugal : before.Frugal limit)
    (change : Change assignable before after) : after.Frugal limit := by
  cases change with
  | @load library modules module registry assembled listed added =>
      refine ⟨fun key loaded found => ?_, frugal.loadable⟩
      rw [Registry.find?_of_add added] at found
      split at found
      · cases found
        exact frugal.loadable library modules assembled module listed
      · exact frugal.loaded key loaded found
  | unload _ removed =>
      refine ⟨fun key loaded found => ?_, frugal.loadable⟩
      rw [Registry.find?_of_remove removed] at found
      split at found
      · cases found
      · exact frugal.loaded key loaded found
  | addMacro | editMacro | deleteMacro | setMacros | blankImage | requestExit =>
      exact ⟨frugal.loaded, frugal.loadable⟩

theorem Frugal.changes {assignable : MacroTable → Prop} (frugal : before.Frugal limit)
    (changes : Changes assignable before after) : after.Frugal limit := by
  induction changes with
  | refl => exact frugal
  | tail _ change ih => exact ih.change change

theorem Frugal.handler (frugal : session.Frugal limit) {invocation : Invocation}
    (reads : session.read line = .ok (some invocation)) :
    CallsAtMost limit
      (invocation.command.handler invocation.owner.info invocation.bundle) := by
  obtain ⟨target, rest, -, resolved, -, -⟩ := read_eq_ok_some_iff.1 reads
  obtain ⟨⟨key, found⟩, name, has⟩ := Registry.exists_loaded_of_resolve resolved
  exact frugal.loaded key _ found name _ has _ _

/-- In a frugal session no line makes more calls than the budget of its levels. -/
abbrev Affordable (limit levels : Nat) (line : String) (session : Session) : Prop :=
  ∀ exchanges traced, Yields (trace levels line session) exchanges traced →
    calls traced.1 ≤ callBudget limit levels

/-- A call costs itself and what the line makes that is called. -/
theorem calls_traceReply (lines : ∀ line, Affordable limit levels line session)
    {request : Handler.Request} {traced : Traced request.Reply}
    (traces : Yields (traceReply (trace levels) session request) exchanges traced) :
    calls traced.1 ≤ calls [request] * (1 + callBudget limit levels) := by
  cases request with
  | call line =>
      obtain ⟨first, ⟨requests, called⟩, second, rfl, evaluates, rest⟩ := yields_bind_iff.1 traces
      have nested : calls requests ≤ callBudget limit levels := lines line first _ evaluates
      obtain ⟨_, replied, _, -, -, ended⟩ := yields_bind_iff.1 rest
      obtain ⟨-, rfl⟩ := yields_done_iff.1 ended
      have counted : calls (.call line :: requests) = 1 + calls requests :=
        calls_append [.call line] requests
      have one : calls [.call line] = 1 := rfl
      show calls (.call line :: requests) ≤ _
      rw [counted, one, Nat.one_mul]
      exact Nat.add_le_add_left nested 1
  | _ =>
      obtain ⟨_, replied, _, -, -, ended⟩ := yields_bind_iff.1 traces
      obtain ⟨-, rfl⟩ := yields_done_iff.1 ended
      exact Nat.zero_le _

/-- A reply leaves a session as frugal as it was. -/
theorem Frugal.traceReply (frugal : session.Frugal limit) {request : Handler.Request}
    {traced : Traced request.Reply}
    (traces : Yields (traceReply (trace levels) session request) exchanges traced) :
    traced.2.1.Frugal limit := by
  have replies : Yields (reply (evaluate levels) session request) exchanges traced.2 := by
    have evaluates : (fun line session => Prod.snd <$> trace levels line session) =
        evaluate levels := funext fun line => funext fun session => erase_trace levels line session
    rw [← evaluates, ← erase_traceReply]
    exact yields_map_iff.2 ⟨traced, traces, rfl⟩
  have quiet : Quiet anyTable session (reply (evaluate levels) session request) :=
    quiet_reply (fun line _ => quiet_evaluate levels line session) fun _ _ => trivial
  exact frugal.changes (quiet.of_yields replies).2

/-- Each call of a handler costs one call and those of the line that is called. -/
theorem calls_traceHandler
    (lines : ∀ line session, session.Frugal limit → Affordable limit levels line session)
    {own : Nat} {task : Task Handler.requests (Except Failure Value)}
    (atMost : Handler.CallsAtMost own task) (frugal : session.Frugal limit)
    {traced : Traced Value}
    (traces : Yields (traceHandler (trace levels) session task) exchanges traced) :
    calls traced.1 ≤ own * (1 + callBudget limit levels) := by
  induction atMost generalizing session exchanges traced with
  | done own result =>
      obtain ⟨-, rfl⟩ := yields_done_iff.1 traces
      exact Nat.zero_le _
  | @ask own request resume later ih =>
      rw [traceHandler] at traces
      rw [Nat.add_mul]
      obtain ⟨first, ⟨requests, changed, failure | answer⟩, rest, rfl, replies, resumed⟩ :=
        yields_bind_iff.1 traces
      · obtain ⟨-, rfl⟩ := yields_done_iff.1 resumed
        have cost := calls_traceReply (fun line => lines line session frugal) replies
        exact cost.trans (Nat.le_add_right ..)
      · obtain ⟨second, ⟨more, outcome⟩, _, -, handles, ended⟩ := yields_bind_iff.1 resumed
        obtain ⟨-, rfl⟩ := yields_done_iff.1 ended
        have cost := calls_traceReply (fun line => lines line session frugal) replies
        have remaining := ih answer (frugal.traceReply replies) handles
        show calls (requests ++ more) ≤ _
        rw [calls_append]
        exact Nat.add_le_add cost remaining

/-- The induction is on the levels of calls that are left. -/
theorem affordable_of_frugal (levels : Nat) (line : String) (session : Session)
    (frugal : session.Frugal limit) : Affordable limit levels line session := by
  induction levels generalizing line session with
  | zero =>
      intro exchanges traced traces
      obtain ⟨-, rfl⟩ := yields_done_iff.1 traces
      exact Nat.le_refl 0
  | succ levels ih =>
      intro exchanges traced traces
      obtain ⟨answer, later, result, -, traced⟩ := yields_trace_succ traces
      rcases traced with ⟨-, rfl⟩ | ⟨invocation, requests, changed, handled, reads, handles, rfl⟩
      · exact Nat.zero_le _
      · exact calls_traceHandler ih (frugal.handler reads) frugal handles

/-- What a step calls. -/
theorem calls_traceStep (frugal : before.Frugal limit) {requests : List Handler.Request}
    {ended : Session × Except ShellError (Option Value)}
    (traces : Yields (traceStep line before) exchanges (requests, ended)) :
    calls requests ≤ callBudget limit maxCallDepth := by
  obtain ⟨after, result⟩ := ended
  obtain ⟨during, changed, evaluated, asked, stored, -, evaluates, -, -⟩ := yields_traceStep traces
  exact affordable_of_frugal maxCallDepth line before frugal during _ evaluates

end Budget

end Session
end CommandShell
