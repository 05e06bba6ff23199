import CommandShell.Proofs.Session.Evaluation
import CommandShell.Proofs.Session.Reading

/-!
# Lines that are a name

A name is a word of its own, so a line that consists of the name of a command
invokes that command with an empty bundle, provided that the name resolves and the
rules ask for nothing.  `evaluate_of_read` says what evaluating a line comes to
once its invocation is known, and `yields_evaluate_iff` the same of its conversations.
-/

namespace CommandShell

namespace Session

open CommandShell.Task (Yields yields_ask_iff yields_bind_iff yields_done_iff)

/-- A line that is the name of a command without required arguments invokes that
command. -/
theorem read_name {session : Session} {name : String} {owner : Module}
    {command : Command} (valid : isValidName name = true)
    (resolved : session.registry.resolve (.bare name) = .ok (owner, command))
    (obeyed : checkRules command.rules {} = .ok ()) :
    session.read name = .ok (some ⟨owner, command, {}⟩) := by
  have tokenized : tokenize name = .ok (CommandName.bare name).tokens :=
    tokenize_of_isValidName valid
  rw [read_of_tokens tokenized trivial]
  refine bind_eq_ok_iff.2 ⟨(owner, command), resolved, ?_⟩
  exact bind_eq_ok_iff.2 ⟨(), obeyed, rfl⟩

/-- Evaluating a line that invokes a command runs its handler, unless the step
has been cancelled before. -/
theorem evaluate_of_read {session : Session} {line : String}
    {invocation : Invocation} (levels : Nat)
    (reads : session.read line = .ok (some invocation)) :
    evaluate (levels + 1) line session = (do
      if ← cancelled then
        return (session, .error (.error .cancelled))
      match ← runHandler (evaluate levels) session
          (invocation.command.handler invocation.owner.info
            invocation.bundle) with
      | (changed, .ok value) =>
          return (changed, checkResult invocation.command value)
      | (changed, .error failure) => return (changed, .error failure)) := by
  rw [evaluate]
  generalize session.read line = invocation? at reads ⊢
  subst reads
  rfl

/-- A line that is not cancelled before it is read comes to what its handler does, and a value is
checked. -/
theorem yields_evaluate_iff {session : Session} {line : String} {invocation : Invocation}
    {levels : Nat} {exchanges : List (Exchange signals)} {outcome : Outcome (Option Value)}
    (reads : session.read line = .ok (some invocation)) :
    Yields (evaluate (levels + 1) line session) (⟨.observe, false⟩ :: exchanges) outcome ↔
      ∃ ended : Outcome Value, Yields (runHandler (evaluate levels) session
          (invocation.command.handler invocation.owner.info invocation.bundle)) exchanges ended ∧
        outcome = (ended.1, ended.2 >>= checkResult invocation.command) := by
  rw [evaluate_of_read levels reads]
  constructor
  · intro yields
    obtain ⟨_, later, ⟨⟩, resumed⟩ := yields_ask_iff.1 yields
    change Yields (runHandler (evaluate levels) session
      (invocation.command.handler invocation.owner.info invocation.bundle) >>= _) _ _ at resumed
    obtain ⟨first, ended, second, rfl, runs, rest⟩ := yields_bind_iff.1 resumed
    refine ⟨ended, ?_⟩
    obtain ⟨changed, failure | value⟩ := ended
    all_goals
      obtain ⟨rfl, rfl⟩ := yields_done_iff.1 rest
      rw [List.append_nil]
      exact ⟨runs, rfl⟩
  · rintro ⟨ended, runs, rfl⟩
    refine .ask ?_
    change Yields (runHandler (evaluate levels) session
      (invocation.command.handler invocation.owner.info invocation.bundle) >>= _) _ _
    refine yields_bind_iff.2 ⟨exchanges, ended, [], (List.append_nil _).symm, runs, ?_⟩
    obtain ⟨changed, failure | value⟩ := ended <;> exact .refl _

/-- A handler ends with its request, or it goes on with the reply. -/
theorem yields_runHandler_ask_iff
    {evaluate : String → Session → Task signals (Outcome (Option Value))} {session : Session}
    {request : Handler.requests.Request}
    {resume : Handler.requests.Reply request → Task Handler.requests (Except Failure Value)}
    {exchanges : List (Exchange signals)} {ended : Outcome Value} :
    Yields (runHandler evaluate session (.ask request resume)) exchanges ended ↔
      (∃ changed failure, Yields (reply evaluate session request) exchanges
          (changed, .error failure) ∧ ended = (changed, .error failure)) ∨
      ∃ first changed answer second, exchanges = first ++ second ∧
        Yields (reply evaluate session request) first (changed, .ok answer) ∧
        Yields (runHandler evaluate changed (resume answer)) second ended := by
  rw [runHandler, yields_bind_iff]
  constructor
  · rintro ⟨first, ⟨changed, failure | answer⟩, second, rfl, replies, rest⟩
    · obtain ⟨rfl, rfl⟩ := yields_done_iff.1 rest
      rw [List.append_nil]
      exact .inl ⟨changed, failure, replies, rfl⟩
    · exact .inr ⟨first, changed, answer, second, rfl, replies, rest⟩
  · rintro (⟨changed, failure, replies, rfl⟩ | ⟨first, changed, answer, second, rfl, replies, runs⟩)
    · exact ⟨exchanges, _, [], (List.append_nil _).symm, replies, .refl _⟩
    · exact ⟨first, _, second, rfl, replies, runs⟩

/-- What a handler gets back from a line that it calls, or how it is ended by it. -/
def handBack (line : String) : Except Failure (Option Value) →
    Except Failure (Except ShellError Value)
  | .ok value => .ok (.ok (value.getD .none))
  | .error (.error error) => .ok (.error (.nested line error))
  | .error (.panic text) => .error (.panic text)

theorem yields_reply_call_iff
    {evaluate : String → Session → Task signals (Outcome (Option Value))} {session : Session}
    {line : String} {exchanges : List (Exchange signals)}
    {replied : Outcome (Except ShellError Value)} :
    Yields (reply evaluate session (.call line)) exchanges replied ↔
      ∃ ended, Yields (evaluate line session) exchanges ended ∧
        replied = (ended.1, handBack line ended.2) := by
  constructor
  · intro replies
    obtain ⟨first, ended, second, rfl, evaluates, rest⟩ := yields_bind_iff.1 replies
    refine ⟨ended, ?_⟩
    obtain ⟨changed, (error | text) | value?⟩ := ended
    all_goals
      obtain ⟨rfl, rfl⟩ := yields_done_iff.1 rest
      rw [List.append_nil]
      exact ⟨evaluates, rfl⟩
  · rintro ⟨ended, evaluates, rfl⟩
    refine yields_bind_iff.2 ⟨exchanges, ended, [], (List.append_nil _).symm, evaluates, ?_⟩
    obtain ⟨changed, (error | text) | value?⟩ := ended <;> exact .refl _

end Session

end CommandShell
