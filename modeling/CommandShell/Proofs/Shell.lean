import CommandShell.Proofs.Session.Survival
import CommandShell.Shell

/-!
# Shells with a store

A shell runs the tasks of its session in its own surroundings.  What its store is asked
there is what the conversation of the session asks, so a store in memory that refuses
nothing stays in step with the macros of the session from the time it is attached.
-/

namespace CommandShell

open CommandShell.Task (Yields)

namespace Shell

open Session (Signal signals)

variable {shell : Shell} {store : MacroStore}

/-- A shell attaches a store in memory as a session does. -/
theorem attachStore_eq (shell : Shell) (store : MacroStore) :
    ((shell.attachStore store (.ok store.bodies)).1.session,
        (shell.attachStore store (.ok store.bodies)).2) =
      (MacroStore.storage.attach shell.session store).1 := by
  change _ = ((shell.session.adoptMacros store.bodies).1,
    (shell.session.adoptMacros store.bodies).2.mapError ShellError.message)
  unfold attachStore
  dsimp only
  generalize shell.session.adoptMacros store.bodies = adopted
  rcases adopted with ⟨session, error | _⟩ <;> rfl

theorem served_reply {around : Surroundings} (attached : around.outlets.store = some store)
    (signal : Signal) :
    ∃ between, (Surroundings.reply signal around).2.outlets.store = some between ∧
      ∀ exchanges after, MacroStore.storage.Served between exchanges after →
        MacroStore.storage.Served store
          (⟨signal, (Surroundings.reply signal around).1⟩ :: exchanges) after := by
  cases signal with
  | persist name body? =>
      refine ⟨(store.persist name body?).2, ?_, fun exchanges after later => ?_⟩
      · simp [Surroundings.reply, Outlets.persist, attached]
      · refine .persist ?_ later
        simp [Surroundings.reply, Outlets.persist, attached, MacroStore.storage]
  | cancel =>
      refine ⟨store, ?_, fun _ _ later => .other id later⟩
      cases shared : around.token.isShared <;> simp [Surroundings.reply, shared, attached]
  | present | observe | pause | await | submit =>
      exact ⟨store, attached, fun _ _ later => .other id later⟩

/-- Running a task in the surroundings of a shell is a conversation, and it serves the store
of the shell. -/
theorem served_run {α : Type} (task : Task signals α) {around : Surroundings}
    (attached : around.outlets.store = some store) :
    ∃ exchanges after,
      Yields task exchanges (Task.run (I := signals) Surroundings.reply task around).1 ∧
      MacroStore.storage.Served store exchanges after ∧
      (Task.run (I := signals) Surroundings.reply task around).2.outlets.store =
        some after := by
  induction task generalizing around store with
  | done value => exact ⟨[], store, .refl _, .nil store, attached⟩
  | ask signal resume ih =>
      obtain ⟨between, attached, serves⟩ := served_reply attached signal
      obtain ⟨exchanges, after, yields, served, attached⟩ :=
        ih (Surroundings.reply signal around).1 attached
      exact ⟨_, after, .ask yields, serves exchanges after served, attached⟩

/-- A shell whose store keeps the macros of its session. -/
def InStep (shell : Shell) : Prop :=
  ∃ store, shell.outlets.store = some store ∧ MacroStore.Keeps store shell.session.macros

theorem inStep_of_attachStore
    (accepts : ∀ earlier change, store.refuses.reason? earlier change = none)
    (valid : MacroTable.Valid store.bodies) (empty : shell.session.macros = ∅) :
    (shell.attachStore store (.ok store.bodies)).1.InStep := by
  unfold attachStore
  dsimp only
  rw [Session.adoptMacros, empty, MacroTable.adopt_empty valid]
  exact ⟨store, rfl, rfl, accepts⟩

theorem InStep.runTask {α : Type} (inStep : shell.InStep) (token : StepToken)
    {task : Session → Task signals (Session × α)} {operation : Session.Operation}
    (tracked : operation.Tracked)
    (performs : shell.session.perform operation =
      task shell.session >>= fun ended => pure ended.1) :
    (shell.runTask token task).1.InStep := by
  obtain ⟨store, attached, kept⟩ := inStep
  have around : (⟨shell.outlets, token⟩ : Surroundings).outlets.store = some store := attached
  obtain ⟨exchanges, after, yields, served, attached⟩ :=
    served_run (task shell.session) around
  have performed : Yields (shell.session.perform operation) exchanges
      (shell.runTask token task).1.session := by
    rw [performs]
    exact Session.yields_session_iff.2 ⟨_, yields⟩
  have operates : MacroStore.storage.Operates (shell.session, store)
      ((shell.runTask token task).1.session, after) :=
    ⟨operation, exchanges, tracked, trivial, performed, served⟩
  exact ⟨after, attached, MacroStore.reliable_storage.operates operates kept⟩

/-- The lines that a shell runs keep its store in step, however they end. -/
theorem inStep_of_execute_or_run (inStep : shell.InStep) (line : String) :
    (shell.execute line).1.InStep ∧
      ∀ isCancelled, (shell.run line isCancelled).1.InStep := by
  have execute : Session.Operation.Tracked (.execute line) := trivial
  have run : Session.Operation.Tracked (.run line) := trivial
  exact ⟨inStep.runTask _ execute rfl, fun isCancelled => inStep.runTask _ run rfl⟩

end Shell
end CommandShell
