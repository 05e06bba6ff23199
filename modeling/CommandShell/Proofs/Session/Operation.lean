import CommandShell.Proofs.Session.Nesting
import CommandShell.Proofs.Session.Rollback

/-!
# Operations on a session

An application that embeds a session performs operations on it, one after the other: it
runs lines and calls them, loads and unloads modules, changes macros, attaches stores and
asks for the exit.  Whatever an operation is, what it makes of a session is one of three
things (`Transition`): a sequence of changes such as handlers make, one more module, or
a step that is settled.
-/

namespace CommandShell
namespace Session

open CommandShell.Task (Yields yields_bind_iff yields_done_iff)

/-- What an application does with a session. -/
inductive Operation where
  /-- Run a line as a step. -/
  | execute (line : String)
  /-- Echo a line, run it as a step and show how it ended. -/
  | run (line : String)
  /-- Evaluate a line the way a handler calls it. -/
  | call (line : String)
  /-- Load a module that belongs to no library. -/
  | register (module : Module)
  | loadLibrary (library : String)
  | loadModule (library name : String)
  | unloadModule (name : String)
  /-- Attach a store from which these macros were loaded. -/
  | adoptMacros (stored : NameMap String)
  | addMacro (name body : String)
  | editMacro (name body : String)
  | deleteMacro (name : String)
  | requestExit

/-- The session that an operation left, or the one it was tried on. -/
def orKeep (session : Session) : Except ShellError Session → Session
  | .ok changed => changed
  | .error _ => session

/-- Perform an operation.  What it answers is left out; if it fails, the session is what
the failure has left of it. -/
def perform (session : Session) : Operation → Task signals Session
  | .execute line => do return (← step line session).1
  | .run line => do return (← run line session).1
  | .call line => do return (← call line session).1
  | .register module => return session.orKeep (session.register module)
  | .loadLibrary library => return (session.loadLibrary library).1
  | .loadModule library name =>
      return session.orKeep (session.loadModule library name)
  | .unloadModule name => return session.orKeep (session.unloadModule name)
  | .adoptMacros stored => return (session.adoptMacros stored).1
  | .addMacro name body => return session.orKeep (session.addMacro name body)
  | .editMacro name body => return session.orKeep (session.editMacro name body)
  | .deleteMacro name =>
      return session.orKeep ((session.deleteMacro name).map (·.2))
  | .requestExit => return session.requestExit

variable {before changed after : Session} {operation : Operation} {line : String}
variable {exchanges stored : List (Exchange signals)}

theorem yields_session_iff {α : Type} {task : Task signals (Session × α)} :
    Yields (do return (← task).1) exchanges after ↔
      ∃ value, Yields task exchanges (after, value) := by
  constructor
  · intro yields
    obtain ⟨first, ⟨_, value⟩, _, rfl, yields, ended⟩ := yields_bind_iff.1 yields
    obtain ⟨rfl, rfl⟩ := yields_done_iff.1 ended
    exact ⟨value, by rwa [List.append_nil]⟩
  · rintro ⟨value, yields⟩
    exact yields_bind_iff.2 ⟨exchanges, _, [], (List.append_nil _).symm, yields, .refl _⟩

section Changes

variable {assignable : MacroTable → Prop}

/-- Adding the stored macros is a sequence of changes, also if a name is refused. -/
theorem changes_adoptMacros (session : Session) (stored : NameMap String) :
    Changes assignable session (session.adoptMacros stored).1 := by
  suffices adopted : ∀ (entries : List (String × String)) (table : MacroTable),
      Changes assignable { session with macros := table }
        { session with macros := (table.adopt entries).1 } from
    adopted stored.toList session.macros
  intro entries
  induction entries with
  | nil => exact fun _ => .refl
  | cons entry entries ih =>
      intro table
      unfold MacroTable.adopt
      split
      · exact ih table
      · cases edited : table.edit entry.1 entry.2 with
        | error error => exact .refl
        | ok extended => exact .head (.editMacro edited) (ih extended)

theorem changes_orKeep {result : Except ShellError Session}
    (change : ∀ changed, result = .ok changed → Change assignable before changed) :
    Changes assignable before (before.orKeep result) := by
  cases result with
  | error error => exact .refl
  | ok changed => exact .single (change changed rfl)

end Changes

/-- The line that an operation runs. -/
def Operation.line? : Operation → Option String
  | .execute line | .run line | .call line => some line
  | _ => none

/-- A handler puts a table in the place of the macros in the line that an operation runs. -/
def Operation.MayAssign (operation : Operation) (session : Session) (table : MacroTable) : Prop :=
  ∃ line, operation.line? = some line ∧ Assigns ⟨.line maxCallDepth line, session⟩ table

theorem changes_of_evaluate {outcome : Outcome (Option Value)}
    (runs : operation.line? = some line)
    (evaluates : Yields (evaluate maxCallDepth line before) exchanges outcome) :
    Changes (operation.MayAssign before) before outcome.1 :=
  (accounts maxCallDepth _ _ _ _ evaluates).mono fun _ assigns => ⟨line, runs, assigns⟩

/-- What an operation can make of a session. -/
inductive Transition (before : Session) : Operation → Session → Prop
  | changes {operation : Operation} {after : Session}
      (changes : Changes (operation.MayAssign before) before after) :
      Transition before operation after
  | registers {module : Module} {registry : Registry}
      (added : before.registry.add module = .ok registry) :
      Transition before (.register module) { before with registry }
  | settles {operation : Operation} {changed after : Session}
      {result : Except ShellError (Option Value)} {stored : List (Exchange signals)}
      (changes : Changes (operation.MayAssign before) before changed)
      (settled : Settles before changed result stored after) :
      Transition before operation after

theorem transition_of_step {result : Except ShellError (Option Value)}
    (runs : operation.line? = some line)
    (stepping : Yields (step line before) exchanges (after, result)) :
    Transition before operation after := by
  obtain ⟨_, _, _, _, _, -, evaluation, -, settled⟩ := yields_step stepping
  exact .settles (changes_of_evaluate runs evaluation) settled

theorem transition_of_run
    {outcome : Except Failure (Except ShellError (Option Value))}
    (runs : operation.line? = some line)
    (ran : Yields (run line before) exchanges (after, outcome)) :
    Transition before operation after := by
  rcases yields_run_or ran with ⟨-, rfl, -⟩ | ⟨_, _, _, _, -, -, stepping, -⟩
  · exact .changes .refl
  · exact transition_of_step runs stepping

/-- Calling a line is evaluating it. -/
theorem yields_call_iff {called : Outcome Value} :
    Yields (call line before) exchanges called ↔
      ∃ ended : Outcome (Option Value), Yields (evaluate maxCallDepth line before) exchanges ended ∧
        called = (ended.1, (·.getD .none) <$> ended.2) := by
  constructor
  · intro calls
    obtain ⟨first, ended, second, rfl, evaluates, rest⟩ := yields_bind_iff.1 calls
    refine ⟨ended, ?_⟩
    obtain ⟨changed, failure | value?⟩ := ended
    all_goals
      obtain ⟨rfl, rfl⟩ := yields_done_iff.1 rest
      rw [List.append_nil]
      exact ⟨evaluates, rfl⟩
  · rintro ⟨ended, evaluates, rfl⟩
    refine yields_bind_iff.2 ⟨exchanges, ended, [], (List.append_nil _).symm, evaluates, ?_⟩
    obtain ⟨changed, failure | value?⟩ := ended <;> exact .refl _

theorem changes_of_call {outcome : Except Failure Value}
    (called : Yields (call line before) exchanges (after, outcome)) :
    Changes (Operation.MayAssign (.call line) before) before after := by
  obtain ⟨ended, evaluates, same⟩ := yields_call_iff.1 called
  cases same
  exact changes_of_evaluate rfl evaluates

/-- Whether an operation makes a step. -/
def Operation.isStep : Operation → Bool
  | .execute _ | .run _ => true
  | _ => false

/-- An operation without a step makes changes such as handlers make, or it loads a module. -/
theorem changes_or_registers (stepless : operation.isStep = false)
    (performed : Yields (before.perform operation) exchanges after) :
    Changes (operation.MayAssign before) before after ∨
      ∃ module registry, operation = .register module ∧
        before.registry.add module = .ok registry ∧ after = { before with registry } := by
  cases operation with
  | execute line => cases stepless
  | run line => cases stepless
  | call line =>
      obtain ⟨_, called⟩ := yields_session_iff.1 performed
      exact .inl (changes_of_call called)
  | register module =>
      obtain ⟨-, rfl⟩ := yields_done_iff.1 performed
      cases registered : before.register module with
      | error error => exact .inl .refl
      | ok extended =>
          obtain ⟨registry, added, ⟨⟩⟩ := bind_eq_ok_iff.1 registered
          exact .inr ⟨module, registry, rfl, added, rfl⟩
  | loadLibrary library =>
      obtain ⟨-, rfl⟩ := yields_done_iff.1 performed
      exact .inl (changes_loadLibrary before library)
  | loadModule library name =>
      obtain ⟨-, rfl⟩ := yields_done_iff.1 performed
      exact .inl (changes_orKeep fun _ => change_loadModule)
  | unloadModule name =>
      obtain ⟨-, rfl⟩ := yields_done_iff.1 performed
      exact .inl (changes_orKeep fun _ => change_unloadModule)
  | adoptMacros stored =>
      obtain ⟨-, rfl⟩ := yields_done_iff.1 performed
      exact .inl (changes_adoptMacros before stored)
  | addMacro name body =>
      obtain ⟨-, rfl⟩ := yields_done_iff.1 performed
      exact .inl (changes_orKeep fun _ => change_addMacro)
  | editMacro name body =>
      obtain ⟨-, rfl⟩ := yields_done_iff.1 performed
      exact .inl (changes_orKeep fun _ => change_editMacro)
  | deleteMacro name =>
      obtain ⟨-, rfl⟩ := yields_done_iff.1 performed
      cases deleted : before.deleteMacro name with
      | error error => exact .inl .refl
      | ok removed => exact .inl (.single (change_deleteMacro deleted))
  | requestExit =>
      obtain ⟨-, rfl⟩ := yields_done_iff.1 performed
      exact .inl (.single (.requestExit before))

/-- Every operation is a transition, however it turns out. -/
theorem transition_of_perform (performed : Yields (before.perform operation) exchanges after) :
    Transition before operation after := by
  cases isStep : operation.isStep with
  | false =>
      rcases changes_or_registers isStep performed with
        changes | ⟨module, registry, rfl, added, rfl⟩
      · exact .changes changes
      · exact .registers added
  | true =>
      cases operation with
      | execute line =>
          obtain ⟨_, stepping⟩ := yields_session_iff.1 performed
          exact transition_of_step rfl stepping
      | run line =>
          obtain ⟨_, ran⟩ := yields_session_iff.1 performed
          exact transition_of_run rfl ran
      | _ => cases isStep

end Session
end CommandShell
