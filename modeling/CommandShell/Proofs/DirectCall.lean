import CommandShell.Proofs.Session.Showing
import CommandShell.Proofs.Session.Survival
import CommandShell.Proofs.Shell

/-!
# Lines that are called directly

Calling a line evaluates it as a step does and leaves it at that.  A step that lasts has the same
conversation with its surroundings first; what comes after it shows nothing, and the session is
the same but for the value that a step remembers (`call_of_step`).

A step also stores the macros that it changed, and a call does not.  The next step compares with
what the call has left, so what a storage misses are exactly the macros that the call changed and
the step did not change again (`loads_all_but_overlooked`).
-/

namespace CommandShell

namespace Session

open CommandShell.Task (Yields Follows)

variable {line : String} {before changed after : Session} {stepped : List (Exchange signals)}
variable {result : Except ShellError (Option Value)}

/-- A result that is neither a cancellation nor a panic. -/
def Lasts (result : Except ShellError (Option Value)) : Prop :=
  ∀ error, result = .error error → error.rootCause ≠ .cancelled ∧ ∀ text, error ≠ .panicked text

theorem abort_of_lasts (lasts : Lasts result) : step.abort result = false := by
  cases result with
  | ok value? => rfl
  | error error =>
      obtain ⟨uncancelled, unpanicked⟩ := lasts error rfl
      rw [step.abort, ← Bool.not_eq_true, isAbort_iff, not_or, not_exists]
      exact ⟨uncancelled, unpanicked⟩

theorem call_storesNothing {called : List (Exchange signals)} {outcome : Outcome Value}
    (calls : Yields (call line before) called outcome) : StoresNothing called := by
  obtain ⟨_, evaluates, -⟩ := yields_call_iff.1 calls
  exact evaluate_storesNothing evaluates

def calledResult : Except ShellError (Option Value) → Except Failure Value
  | .ok value? => .ok (value?.getD .none)
  | .error error => .error (.error error)

/-- Before it settles, a step that lasts is a call. -/
theorem call_of_step (steps : Yields (step line before) stepped (after, result))
    (lasts : Lasts result) :
    ∃ called settled, stepped = called ++ settled ∧ presented settled = [] ∧
      Yields (call line before) called
        ({ after with previous := before.previous }, calledResult result) := by
  obtain ⟨during, changed, evaluated, asked, stored, rfl, evaluates, judges, settles⟩ :=
    yields_step steps
  have silent : presented (asked ++ stored) = [] := by
    rw [presented_append, presented_of_verdict judges, settles.presented, List.append_nil]
  refine ⟨during, asked ++ stored, rfl, silent, yields_call_iff.2 ⟨_, evaluates, ?_⟩⟩
  have kept : changed.previous = before.previous := (changes_of_yields evaluates).previous_eq
  -- nothing is taken back, so the step only remembers a value on top of what the line changed
  have afterEq : { after with previous := before.previous } = changed := by
    cases settles with
    | aborts abort => cases (abort_of_lasts lasts).symm.trans abort
    | commits =>
        rw [← kept]
        unfold remember
        split <;> rfl
  rw [afterEq]
  rcases evaluated with (error | text) | value?
  · obtain ⟨-, rfl⟩ := yields_verdict_error judges
    rfl
  · obtain ⟨-, rfl⟩ := yields_verdict_panic judges
    exact absurd rfl ((lasts _ rfl).2 _)
  · obtain ⟨isSet, -, rfl⟩ := yields_verdict_ok judges
    cases isSet with
    | true => exact absurd rfl (lasts _ rfl).1
    | false => rfl

/-- With surroundings that reply by a strategy, a step and a call of one line each have one
conversation.  If the step lasts, the conversation of the call is the beginning of it and shows
the same, and the call ends as the step does, except that nothing is remembered. -/
structure CallsWithoutSlot
    (strategy : List (Exchange signals) → (signal : signals.Request) → signals.Reply signal)
    (line : String) (before : Session) : Prop where
  steps : ∃ stepped ended, Follows strategy [] stepped ∧ Yields (step line before) stepped ended
  calls : ∃ called ended, Follows strategy [] called ∧ Yields (call line before) called ended
  agrees : ∀ stepped called after result changed outcome,
    Follows strategy [] stepped → Yields (step line before) stepped (after, result) →
    Follows strategy [] called → Yields (call line before) called (changed, outcome) →
    Lasts result →
      called <+: stepped ∧ presented called = presented stepped ∧ outcome = calledResult result ∧
        changed = { after with previous := before.previous }

theorem callsWithoutSlot
    (strategy : List (Exchange signals) → (signal : signals.Request) → signals.Reply signal)
    (line : String) (before : Session) : CallsWithoutSlot strategy line before where
  steps := Task.exists_yields_of_strategy strategy (step line before) []
  calls := Task.exists_yields_of_strategy strategy (call line before) []
  agrees stepped called after result changed outcome follows steps followsCall calls lasts := by
    obtain ⟨first, settled, rfl, silent, again⟩ := call_of_step steps lasts
    obtain ⟨rfl, same⟩ := calls.unique_of_follows again followsCall follows.of_append
    cases same
    refine ⟨List.prefix_append .., ?_, rfl, rfl⟩
    rw [presented_append, silent, List.append_nil]

end Session

namespace Shell

open Session (signals Lasts calledResult presented StoresNothing)
open CommandShell.Task (stateAfter)

variable {exchanges : List (Exchange signals)} {around : Surroundings}

theorem store_stateAfter (storesNothing : StoresNothing exchanges) :
    (stateAfter Surroundings.reply around exchanges).outlets.store = around.outlets.store := by
  induction exchanges generalizing around with
  | nil => rfl
  | cons exchange exchanges ih =>
      obtain ⟨passes, storesNothing⟩ := List.forall_mem_cons.1 storesNothing
      refine (ih storesNothing).trans ?_
      obtain ⟨signal, answer⟩ := exchange
      cases signal with
      | persist name body? => exact absurd trivial passes
      | cancel => cases shared : around.token.isShared <;> simp [Surroundings.reply, shared]
      | present | observe | pause | await | submit => rfl

theorem display_stateAfter (silent : presented exchanges = []) :
    (stateAfter Surroundings.reply around exchanges).outlets.display = around.outlets.display := by
  induction exchanges generalizing around with
  | nil => rfl
  | cons exchange exchanges ih =>
      obtain ⟨noItem, silent⟩ := List.forall_mem_cons.1 (List.filterMap_eq_nil_iff.1 silent)
      refine (ih (List.filterMap_eq_nil_iff.2 silent)).trans ?_
      obtain ⟨signal, answer⟩ := exchange
      cases signal with
      | present item => cases noItem
      | cancel => cases shared : around.token.isShared <;> simp [Surroundings.reply, shared]
      | persist name body? =>
          cases attached : around.outlets.store <;>
            simp [Surroundings.reply, Outlets.persist, attached]
      | observe | pause | await | submit => rfl

/-- What a call and a step of a shell have in common: all but the value that is remembered, and the
store, in which a call stores nothing. -/
structure SameButSlot (before : Shell) (called : Shell × Except Failure Value)
    (executed : Shell × Except ShellError (Option Value)) : Prop where
  result : called.2 = calledResult executed.2
  session : called.1.session =
    { executed.1.session with previous := before.session.previous }
  display : called.1.outlets.display = executed.1.outlets.display
  store : called.1.outlets.store = before.outlets.store

theorem sameButSlot_of_lasts (shell : Shell) (line : String)
    (lasts : Lasts (shell.execute line).2) :
    SameButSlot shell (shell.call line) (shell.execute line) := by
  let around : Surroundings := { outlets := shell.outlets, token := {} }
  obtain ⟨stepped, follows, steps, stepEnd⟩ :=
    Task.exists_yields_run Surroundings.reply (Session.step line shell.session) around
  obtain ⟨called, followsCall, calls, callEnd⟩ :=
    Task.exists_yields_run Surroundings.reply (Session.call line shell.session) around
  obtain ⟨first, settled, rfl, silent, again⟩ := Session.call_of_step steps lasts
  -- the call inside the step meets the same replies, so it is the call of its own
  obtain ⟨rfl, same⟩ := calls.unique_of_follows again followsCall follows.of_append
  have splits : stateAfter Surroundings.reply around (called ++ settled) =
      stateAfter Surroundings.reply (stateAfter Surroundings.reply around called) settled :=
    Task.stateAfter_append (I := signals) ..
  have callOutlets := congrArg Surroundings.outlets callEnd
  have stepOutlets := congrArg Surroundings.outlets (stepEnd.trans splits)
  refine ⟨congrArg Prod.snd same, congrArg Prod.fst same, ?_, ?_⟩
  · have shown := (congrArg Outlets.display stepOutlets).trans (display_stateAfter silent)
    exact (congrArg Outlets.display callOutlets).trans shown.symm
  · have storesNothing := Session.call_storesNothing calls
    exact (congrArg Outlets.store callOutlets).trans (store_stateAfter storesNothing)

/-- A call differs from a step that lasts in the slot and in what is stored, and in nothing else. -/
theorem call_differs_in_slot (shell : Shell) (line : String) :
    (∀ strategy, Session.CallsWithoutSlot strategy line shell.session) ∧
      (Lasts (shell.execute line).2 →
        SameButSlot shell (shell.call line) (shell.execute line)) :=
  ⟨fun strategy => Session.callsWithoutSlot strategy line shell.session,
    sameButSlot_of_lasts shell line⟩

/-- A handler that shows a value, defines a macro and asks for the exit. -/
def announce : Handler Value := do
  Handler.print (.integer 1)
  Handler.addMacro "x" "go"
  Handler.requestExit
  return .integer 2

def announcer : Shell := { session := Session.ofHandler announce }

theorem call_of_announce :
    (announcer.execute "go").2 = .ok (some (.integer 2)) ∧
      (announcer.execute "go").1.session.previous = some (.integer 2) ∧
      (announcer.call "go").2 = .ok (.integer 2) ∧
      (announcer.call "go").1.session.previous = none ∧
      (announcer.call "go").1.session.exitRequested = true ∧
      (announcer.call "go").1.outlets.display.shown = [.value (.integer 1)] := by
  have executed : announcer.execute "go" =
      ({ session := { Session.ofHandler announce with
           macros := .ofList [("x", "go")], exitRequested := true, previous := some (.integer 2) }
         outlets := { display :=
           { seen := [.value (.integer 1)], shown := [.value (.integer 1)] } } },
        .ok (some (.integer 2))) := by
    have stepEq := (Session.step_eq "go" (Session.ofHandler announce)).trans
      (congrArg (· >>= Session.conclude _)
        (Session.evaluate_of_read 63 (Session.read_ofHandler announce)))
    rw [execute, runTask, announcer, stepEq]
    delta Session.runHandler
    rfl
  have lasts : Lasts (announcer.execute "go").2 := by
    rw [executed]
    exact nofun
  obtain ⟨-, agrees⟩ := call_differs_in_slot announcer "go"
  have same := agrees lasts
  rw [executed] at same ⊢
  exact ⟨rfl, rfl, same.result, congrArg _ same.session, congrArg _ same.session,
    congrArg _ same.display⟩

end Shell

namespace MacroTable

/-- A name whose macro is not what it was before a call, and still what the call has left. -/
def Overlooked (before called after : MacroTable) (name : String) : Prop :=
  called.find? name ≠ before.find? name ∧ after.find? name = called.find? name

end MacroTable

namespace Storage

open Session (signals persisted Operation)
open CommandShell.Task (Yields)
open MacroTable (Overlooked)

variable {σ : Type} {storage : Storage σ} {keeps : σ → NameMap String → Prop}
variable {opened called final : σ} {before between after : Session} {line : String}
variable {outcome : Except Failure Value} {operation : Operation}
variable {calling stepping : List (Exchange signals)}

theorem persisted_of_isStep (isStep : operation.isStep = true)
    (steps : Yields (before.perform operation) stepping after) :
    persisted stepping = MacroTable.changes before.macros after.macros := by
  refine Session.persisted_perform ?_ steps
  cases operation <;> trivial

/-- What a storage keeps after a call and a step: the changes of the step, made to what the storage
kept before the call. -/
theorem Reliable.keeps_of_call_step (reliable : storage.Reliable keeps)
    (kept : keeps opened before.macros)
    (calls : Yields (Session.call line before) calling (between, outcome))
    (servedCall : storage.Served opened calling called)
    (isStep : operation.isStep = true) (steps : Yields (between.perform operation) stepping after)
    (servedStep : storage.Served called stepping final) :
    keeps final ((MacroTable.changes between.macros after.macros).foldl
      MacroTable.applyChange before.macros) := by
  have keptCall := reliable.keeps_of_served servedCall kept
  rw [Session.persisted_of_storesNothing (Session.call_storesNothing calls)] at keptCall
  have keptStep := reliable.keeps_of_served servedStep keptCall
  rwa [persisted_of_isStep isStep steps] at keptStep

/-- After a call and a step, a storage that kept the macros loads them again, except that it has
overlooked what the call changed and the step did not change again. -/
theorem loads_all_but_overlooked (reliable : storage.Reliable keeps)
    (kept : keeps opened before.macros)
    (calls : Yields (Session.call line before) calling (between, outcome))
    (servedCall : storage.Served opened calling called)
    (isStep : operation.isStep = true) (steps : Yields (between.perform operation) stepping after)
    (servedStep : storage.Served called stepping final) :
    ∃ stored, (storage.load final).1 = .ok stored ∧
      (∀ name, Overlooked before.macros between.macros after.macros name →
        stored.find? name = before.macros.find? name) ∧
      (∀ name, ¬ Overlooked before.macros between.macros after.macros name →
        stored.find? name = after.macros.find? name) ∧
      (stored = after.macros ↔
        ∀ name, ¬ Overlooked before.macros between.macros after.macros name) := by
  have net := MacroTable.netChange_changes between.macros after.macros
  have found := net.find?_foldl before.macros
  have keptStep := reliable.keeps_of_call_step kept calls servedCall isStep steps servedStep
  -- the changes were found against what the call left, and are made to what was there before it
  generalize (MacroTable.changes between.macros after.macros).foldl MacroTable.applyChange
    before.macros = stored at found keptStep
  obtain ⟨_, loaded, -⟩ := reliable.load keptStep
  have overlooked (name : String)
      (missed : Overlooked before.macros between.macros after.macros name) :
      stored.find? name = before.macros.find? name :=
    (found name).trans (if_pos missed.2)
  have caught (name : String)
      (unmissed : ¬ Overlooked before.macros between.macros after.macros name) :
      stored.find? name = after.macros.find? name := by
    rw [found]
    split
    · next same =>
        have unchanged : between.macros.find? name = before.macros.find? name :=
          not_not.1 fun changed => unmissed ⟨changed, same⟩
        rw [same, unchanged]
    · rfl
  refine ⟨stored, by rw [loaded], overlooked, caught, fun same name missed => ?_, fun none => ?_⟩
  · have still := overlooked name missed
    rw [same, missed.2] at still
    exact missed.1 still
  · exact NameMap.ext_find? fun name => caught name (none name)

def define : Handler Value := do
  Handler.editMacro "x" "go"
  return .none

def defined : Session :=
  { Session.ofHandler define with macros := .ofList [("x", "go")] }

theorem read_defined : defined.read "go" =
    .ok (some ⟨Session.goModule define, Session.goCommand define, {}⟩) :=
  Session.read_name (by decide) rfl rfl

/-- A macro that a called line defines does not get into the store, although a step follows that
defines it in the same way. -/
theorem definition_lost_of_call :
    MacroStore.Keeps {} (Session.ofHandler define).macros ∧
      Yields (Session.call "go" (Session.ofHandler define)) [⟨.observe, false⟩]
        (defined, .ok .none) ∧
      MacroStore.storage.Served {} [⟨.observe, false⟩] {} ∧
      Yields (defined.perform (.execute "go")) [⟨.observe, false⟩, ⟨.observe, false⟩]
        { defined with previous := some .none } ∧
      MacroStore.storage.Served {} [⟨.observe, false⟩, ⟨.observe, false⟩] {} ∧
      ¬ MacroStore.Keeps {} defined.macros := by
  have calls : Yields (Session.call "go" (Session.ofHandler define)) [⟨.observe, false⟩]
      (defined, .ok .none) := by
    rw [Session.call, Session.maxCallDepth,
      Session.evaluate_of_read 63 (Session.read_ofHandler define)]
    delta Session.runHandler
    exact .ask (.refl _)
  have steps : Yields (defined.perform (.execute "go"))
      [⟨.observe, false⟩, ⟨.observe, false⟩] { defined with previous := some .none } := by
    rw [Session.perform, Session.step_of_read read_defined]
    delta Session.runHandler
    exact .ask (.ask (.refl _))
  refine ⟨⟨rfl, fun _ _ => rfl⟩, calls, .other id (.nil _), steps,
    .other id (.other id (.nil _)), ?_⟩
  rintro ⟨same, -⟩
  cases congrArg (·.find? "x") same

/-- A handler that defines one macro, in one way if there are none and in another if there are. -/
def renew : Handler Value := do
  let macros ← Handler.macros
  Handler.editMacro "x" (if macros.isEmpty then "wah!" else "go")
  return .none

def renewed (body : String) : Session :=
  { Session.ofHandler renew with macros := .ofList [("x", body)] }

/-- A macro that a called line defines gets into the store if the next step defines it anew. -/
theorem definition_loaded_of_renew :
    Yields (Session.call "go" (Session.ofHandler renew)) [⟨.observe, false⟩]
        (renewed "wah!", .ok .none) ∧
      Yields ((renewed "wah!").perform (.execute "go"))
        [⟨.observe, false⟩, ⟨.observe, false⟩, ⟨.persist "x" (some "go"), .ok ()⟩]
        { renewed "go" with previous := some .none } ∧
      ∃ final, MacroStore.storage.Served {}
          [⟨.observe, false⟩, ⟨.observe, false⟩, ⟨.persist "x" (some "go"), .ok ()⟩] final ∧
        (MacroStore.storage.load final).1 = .ok (renewed "go").macros := by
  have calls : Yields (Session.call "go" (Session.ofHandler renew)) [⟨.observe, false⟩]
      (renewed "wah!", .ok .none) := by
    rw [Session.call, Session.maxCallDepth,
      Session.evaluate_of_read 63 (Session.read_ofHandler renew)]
    delta Session.runHandler
    exact .ask (.refl _)
  have reads : (renewed "wah!").read "go" =
      .ok (some ⟨Session.goModule renew, Session.goCommand renew, {}⟩) :=
    Session.read_name (by decide) rfl rfl
  have steps : Yields ((renewed "wah!").perform (.execute "go"))
      [⟨.observe, false⟩, ⟨.observe, false⟩, ⟨.persist "x" (some "go"), .ok ()⟩]
      { renewed "go" with previous := some .none } := by
    rw [Session.perform, Session.step_of_read reads]
    delta Session.runHandler
    exact .ask (.ask (.ask (.refl _)))
  obtain ⟨final, persisted, -⟩ := MacroStore.reliable_storage.persist "x" (some "go")
    (show MacroStore.Keeps {} ∅ from ⟨rfl, fun _ _ => rfl⟩)
  have served : MacroStore.storage.Served {}
      [⟨.observe, false⟩, ⟨.observe, false⟩, ⟨.persist "x" (some "go"), .ok ()⟩] final :=
    .other id (.other id (.persist persisted (.nil final)))
  obtain ⟨stored, loaded, -, -, complete⟩ := loads_all_but_overlooked MacroStore.reliable_storage
    ⟨rfl, fun _ _ => rfl⟩ calls (.other id (.nil _)) rfl steps served
  have caught : stored = (renewed "go").macros := by
    refine complete.2 ?_
    rintro name ⟨changed, same⟩
    by_cases isX : name = "x"
    · subst isX
      exact absurd (Option.some.inj same) (by decide)
    · exact changed ((NameMap.find?_insert ..).trans (if_neg isX))
  exact ⟨calls, steps, final, served, caught ▸ loaded⟩

end Storage

end CommandShell
