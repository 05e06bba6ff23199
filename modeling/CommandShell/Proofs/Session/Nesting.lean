import CommandShell.Proofs.Session.Invocation

/-!
# The middle of a step

A line is evaluated by running a handler, whose calls evaluate more lines inside it.
A `Point` is a place in all of this: right before a line is read, or in a handler, with
the session as it is there.  The points `Within` an evaluation are those that it can come
to, whatever its surroundings reply.  What an evaluation does to a session is accounted for
by the handlers at its points, which also tell what tables of macros it `Assigns`.
-/

namespace CommandShell
namespace Session

open CommandShell.Task (Yields yields_ask_iff yields_done_iff)

/-- What is evaluated at a point. -/
inductive Stage where
  /-- A line is about to be read, with so many call levels left for it. -/
  | line (levels : Nat) (line : String)
  /-- What is left of a handler runs, with so many call levels left for its calls. -/
  | handler (levels : Nat) (task : Task Handler.requests (Except Failure Value))

/-- A place in an evaluation, and the session there. -/
structure Point where
  stage : Stage
  session : Session

/-- How an evaluation gets from one point to the next.  A nested call is entered, and it
is also a request that is replied to in the end. -/
inductive Enters : Point → Point → Prop
  | invoke {levels : Nat} {line : String} {session : Session} {invocation : Invocation}
      (reads : session.read line = .ok (some invocation)) :
      Enters ⟨.line (levels + 1) line, session⟩
        ⟨.handler levels (invocation.command.handler invocation.owner.info
          invocation.bundle), session⟩
  | call {levels : Nat} {line : String} {session : Session}
      {resume : Except ShellError Value → Task Handler.requests (Except Failure Value)} :
      Enters ⟨.handler levels (.ask (.call line) resume), session⟩
        ⟨.line levels line, session⟩
  | resume {levels : Nat} {request : Handler.Request} {answer : request.Reply}
      {resume : request.Reply → Task Handler.requests (Except Failure Value)}
      {session changed : Session} {exchanges : List (Exchange signals)}
      (replied : Yields (reply (evaluate levels) session request) exchanges
        (changed, .ok answer)) :
      Enters ⟨.handler levels (.ask request resume), session⟩
        ⟨.handler levels (resume answer), changed⟩

/-- The points that an evaluation can come to. -/
abbrev Within : Point → Point → Prop := Relation.ReflTransGen Enters

/-- A handler that runs in an evaluation puts a table in the place of the macros. -/
def Assigns (start : Point) (table : MacroTable) : Prop :=
  ∃ levels resume session,
    Within start ⟨.handler levels (.ask (.setMacros table) resume), session⟩

theorem Assigns.of_within {start point : Point} {table : MacroTable}
    (within : Within start point) (assigns : Assigns point table) : Assigns start table := by
  obtain ⟨levels, resume, session, later⟩ := assigns
  exact ⟨levels, resume, session, within.trans later⟩

section Changes

variable {levels : Nat} {session : Session} {exchanges : List (Exchange signals)}

/-- What a line does to a session are changes of the handlers that run in it. -/
def Accounts (levels : Nat) : Prop :=
  ∀ (line : String) (session : Session) (exchanges : List (Exchange signals))
    (outcome : Outcome (Option Value)),
    Yields (evaluate levels line session) exchanges outcome →
      Changes (Assigns ⟨.line levels line, session⟩) session outcome.1

theorem Accounts.reply (accounts : Accounts levels) {request : Handler.requests.Request}
    {resume : Handler.requests.Reply request → Task Handler.requests (Except Failure Value)}
    {replied : Outcome (Handler.requests.Reply request)}
    (replies : Yields (reply (evaluate levels) session request) exchanges replied) :
    Changes (Assigns ⟨.handler levels (.ask request resume), session⟩) session replied.1 := by
  by_cases calls : ∃ line, request = .call line
  · obtain ⟨line, rfl⟩ := calls
    obtain ⟨ended, evaluates, rfl⟩ := yields_reply_call_iff.1 replies
    exact (accounts _ _ _ _ evaluates).mono fun _ => .of_within (.single .call)
  · have quiet : Quiet (fun table => request = .setMacros table) session
        (Session.reply (evaluate levels) session request) :=
      quiet_reply (fun line same => absurd ⟨line, same⟩ calls) fun _ => id
    refine (quiet.of_yields replies).2.mono ?_
    rintro table rfl
    exact ⟨levels, resume, session, .refl⟩

theorem Accounts.runHandler (accounts : Accounts levels)
    {task : Task Handler.requests (Except Failure Value)} {ended : Outcome Value}
    (runs : Yields (runHandler (evaluate levels) session task) exchanges ended) :
    Changes (Assigns ⟨.handler levels task, session⟩) session ended.1 := by
  induction task generalizing session exchanges with
  | done result =>
      obtain ⟨-, rfl⟩ := yields_done_iff.1 runs
      exact .refl
  | ask request resume ih =>
      rcases yields_runHandler_ask_iff.1 runs with
        ⟨_, _, replies, rfl⟩ | ⟨_, _, answer, _, rfl, replies, rest⟩
      · exact accounts.reply replies
      · exact (accounts.reply replies).trans
          ((ih answer rest).mono fun _ => .of_within (.single (.resume replies)))

/-- The induction is on the levels of calls that are left. -/
theorem accounts (levels : Nat) : Accounts levels := by
  induction levels with
  | zero =>
      intro line session exchanges outcome evaluates
      obtain ⟨-, rfl⟩ := yields_done_iff.1 evaluates
      exact .refl
  | succ levels ih =>
      intro line session exchanges outcome evaluates
      obtain ⟨isCancelled, later, rfl, rest⟩ := yields_ask_iff.1 evaluates
      cases isCancelled with
      | true =>
          obtain ⟨-, rfl⟩ := yields_done_iff.1 rest
          exact .refl
      | false =>
          rcases reads : session.read line with error | _ | invocation
          · rw [reads] at rest
            obtain ⟨-, rfl⟩ := yields_done_iff.1 rest
            exact .refl
          · rw [reads] at rest
            obtain ⟨-, rfl⟩ := yields_done_iff.1 rest
            exact .refl
          · obtain ⟨ended, runs, rfl⟩ := (yields_evaluate_iff reads).1 evaluates
            exact (ih.runHandler runs).mono fun _ => .of_within (.single (.invoke reads))

end Changes

theorem changes_of_enters {point next : Point} (enters : Enters point next) :
    Changes (Assigns point) point.session next.session := by
  cases enters with
  | invoke => exact .refl
  | call => exact .refl
  | resume replied => exact (accounts _).reply replied

/-- Up to every point of an evaluation, a session has changed only as the handlers that run
there change it. -/
theorem changes_of_within {start point : Point} (within : Within start point) :
    Changes (Assigns start) start.session point.session := by
  induction within with
  | refl => exact .refl
  | tail earlier enters ih =>
      exact ih.trans ((changes_of_enters enters).mono fun _ => .of_within earlier)

end Session
end CommandShell
