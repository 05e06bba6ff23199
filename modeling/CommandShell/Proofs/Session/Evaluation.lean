import CommandShell.Proofs.Conversation
import CommandShell.Session.Evaluate
import Mathlib.Logic.Relation

/-!
# What evaluating a line can change

However its handlers behave, and however deeply their calls are nested, evaluating
a line changes a session only by a sequence of `Change`s, one for each request of
a handler that succeeds, and it stores nothing.  What every change keeps is
therefore kept by every evaluation.  A change is told with what is known of the
tables of macros that handlers may assign.
-/

namespace CommandShell

namespace Session

/-- What one request of a handler can make of a session. -/
inductive Change (assignable : MacroTable → Prop) : Session → Session → Prop
  | addMacro {session : Session} {name body : String} {macros : MacroTable}
      (added : session.macros.add name body = .ok macros) :
      Change assignable session { session with macros }
  | editMacro {session : Session} {name body : String} {macros : MacroTable}
      (edited : session.macros.edit name body = .ok macros) :
      Change assignable session { session with macros }
  | deleteMacro {session : Session} {name body : String} {macros : MacroTable}
      (deleted : session.macros.delete name = .ok (body, macros)) :
      Change assignable session { session with macros }
  | setMacros {session : Session} {macros : MacroTable} (may : assignable macros) :
      Change assignable session { session with macros }
  | load {session : Session} {library : String} {modules : List Module}
      {module : Module} {registry : Registry}
      (assembled : session.catalog.instantiate library = .ok modules)
      (listed : module ∈ modules)
      (added : session.registry.add module = .ok registry) :
      Change assignable session { session with registry }
  | unload {session : Session} {name : String} {registry : Registry}
      (allowed : name ≠ SystemModule.moduleName)
      (removed : session.registry.remove name = .ok registry) :
      Change assignable session { session with registry }
  | blankImage (session : Session) :
      Change assignable session { session with images := session.images + 1 }
  | requestExit (session : Session) :
      Change assignable session { session with exitRequested := true }

/-- What any number of requests of handlers can make of a session. -/
abbrev Changes (assignable : MacroTable → Prop) : Session → Session → Prop :=
  Relation.ReflTransGen (Change assignable)

variable {assignable : MacroTable → Prop}

theorem Change.mono {other : MacroTable → Prop} {before after : Session}
    (may : ∀ table, assignable table → other table)
    (change : Change assignable before after) : Change other before after := by
  cases change with
  | addMacro added => exact .addMacro added
  | editMacro edited => exact .editMacro edited
  | deleteMacro deleted => exact .deleteMacro deleted
  | setMacros assigned => exact .setMacros (may _ assigned)
  | load assembled listed added => exact .load assembled listed added
  | unload allowed removed => exact .unload allowed removed
  | blankImage => exact .blankImage _
  | requestExit => exact .requestExit _

theorem Changes.mono {other : MacroTable → Prop} {before after : Session}
    (may : ∀ table, assignable table → other table)
    (changes : Changes assignable before after) : Changes other before after := by
  induction changes with
  | refl => exact .refl
  | tail _ change ih => exact ih.tail (change.mono may)

theorem Change.previous_eq {before after : Session}
    (change : Change assignable before after) : after.previous = before.previous := by
  cases change <;> rfl

/-- Nothing that handlers do changes the previous output. -/
theorem Changes.previous_eq {before after : Session}
    (changes : Changes assignable before after) : after.previous = before.previous := by
  induction changes with
  | refl => rfl
  | tail _ change ih => exact change.previous_eq.trans ih

/-- Loading the modules of a library one after the other is a sequence of
changes, also if one of them fails. -/
theorem changes_registerAll {session : Session} {library : String}
    {modules : List Module}
    (assembled : session.catalog.instantiate library = .ok modules) :
    Changes assignable session (session.registerAll modules).1 := by
  suffices sublist : ∀ rest session, session.catalog.instantiate library = .ok modules →
      (∀ module ∈ rest, module ∈ modules) →
      Changes assignable session (session.registerAll rest).1 from
    sublist modules session assembled fun _ member => member
  intro rest
  induction rest with
  | nil => exact fun _ _ _ => .refl
  | cons module rest ih =>
      intro session assembled listed
      unfold registerAll
      cases registered : session.register module with
      | error error => exact .refl
      | ok extended =>
          obtain ⟨registry, added, ⟨⟩⟩ := bind_eq_ok_iff.1 registered
          exact .head (.load assembled (listed module (by simp)) added)
            (ih _ assembled fun _ member => listed _ (by simp [member]))

theorem changes_loadLibrary (session : Session) (library : String) :
    Changes assignable session (session.loadLibrary library).1 := by
  unfold loadLibrary
  cases assembled : session.catalog.instantiate library with
  | error error => exact .refl
  | ok modules =>
      dsimp only
      split
      · exact .refl
      · exact changes_registerAll assembled

theorem change_addMacro {session changed : Session} {name body : String}
    (replied : session.addMacro name body = .ok changed) :
    Change assignable session changed := by
  obtain ⟨macros, added, ⟨⟩⟩ := bind_eq_ok_iff.1 replied
  exact .addMacro added

theorem change_editMacro {session changed : Session} {name body : String}
    (replied : session.editMacro name body = .ok changed) :
    Change assignable session changed := by
  obtain ⟨macros, edited, ⟨⟩⟩ := bind_eq_ok_iff.1 replied
  exact .editMacro edited

theorem change_deleteMacro {session changed : Session} {name body : String}
    (replied : session.deleteMacro name = .ok (body, changed)) :
    Change assignable session changed := by
  obtain ⟨⟨body, macros⟩, deleted, ⟨⟩⟩ := bind_eq_ok_iff.1 replied
  exact .deleteMacro deleted

theorem change_loadModule {session changed : Session} {library name : String}
    (loaded : session.loadModule library name = .ok changed) :
    Change assignable session changed := by
  obtain ⟨modules, assembled, registered⟩ := bind_eq_ok_iff.1 loaded
  cases found : modules.find? fun module => module.name == name with
  | none => simp [found] at registered
  | some module =>
      rw [found] at registered
      obtain ⟨registry, added, ⟨⟩⟩ := bind_eq_ok_iff.1 registered
      exact .load assembled (List.mem_of_find?_eq_some found) added

theorem change_unloadModule {session changed : Session} {name : String}
    (unloaded : session.unloadModule name = .ok changed) :
    Change assignable session changed := by
  unfold unloadModule at unloaded
  split at unloaded
  · cases unloaded
  · next allowed =>
      obtain ⟨registry, removed, ⟨⟩⟩ := bind_eq_ok_iff.1 unloaded
      exact .unload allowed removed

def Signal.Stores : Signal → Prop
  | .persist .. => True
  | _ => False

/-- A task that stores nothing and leaves a session that only handlers
changed. -/
abbrev Quiet {α : Type} (assignable : MacroTable → Prop) (session : Session)
    (task : Task signals (Outcome α)) : Prop :=
  Task.Ensures (I := signals) (fun signal => ¬ signal.Stores)
    (fun outcome => Changes assignable session outcome.1) task

variable {evaluate : String → Session → Task signals (Outcome (Option Value))}
variable {session : Session} {request : Handler.Request}

theorem quiet_reply
    (nested : ∀ line, request = .call line →
      Quiet assignable session (evaluate line session))
    (may : ∀ table, request = .setMacros table → assignable table) :
    Quiet assignable session (reply evaluate session request) := by
  cases request with
  | addMacro name body =>
      cases replied : session.addMacro name body with
      | error error => simpa [reply, replied] using .refl
      | ok changed =>
          simpa [reply, replied] using .single (change_addMacro replied)
  | editMacro name body =>
      cases replied : session.editMacro name body with
      | error error => simpa [reply, replied] using .refl
      | ok changed =>
          simpa [reply, replied] using .single (change_editMacro replied)
  | deleteMacro name =>
      cases replied : session.deleteMacro name with
      | error error => simpa [reply, replied] using .refl
      | ok removed =>
          simpa [reply, replied] using .single (change_deleteMacro replied)
  | setMacros macros => exact .single (.setMacros (may macros rfl))
  | listMacros => exact .refl
  | listModules => exact .refl
  | loadLibrary library => exact changes_loadLibrary session library
  | loadModule library name =>
      cases replied : session.loadModule library name with
      | error error => simpa [reply, replied] using .refl
      | ok changed =>
          simpa [reply, replied] using .single (change_loadModule replied)
  | unloadModule name =>
      cases replied : session.unloadModule name with
      | error error => simpa [reply, replied] using .refl
      | ok changed =>
          simpa [reply, replied] using .single (change_unloadModule replied)
  | blankImage width height =>
      cases replied : session.blankImage width height with
      | error error => simpa [reply, replied] using .refl
      | ok created =>
          obtain ⟨image, drawn, ⟨⟩⟩ := bind_eq_ok_iff.1 replied
          simpa [reply, replied] using .single (.blankImage session)
  | print value =>
      refine ⟨id, fun delivery => ?_⟩
      cases delivery <;> exact .refl
  | call line =>
      refine (nested line rfl).bind fun outcome changes => ?_
      obtain ⟨changed, (_ | _) | _⟩ := outcome <;> exact changes
  | requestExit => exact .single (.requestExit session)
  | checkpoint => exact ⟨id, fun _ => .refl⟩
  | sleep milliseconds => exact ⟨id, fun _ => .refl⟩
  | awaitRelease => exact ⟨id, fun _ => .refl⟩
  | cancelStep => exact ⟨id, fun _ => .refl⟩
  | submitLine line => exact ⟨id, fun _ => .refl⟩

/-- Any table, which is all that is known of what handlers assign. -/
abbrev anyTable (_ : MacroTable) : Prop := True

theorem quiet_runHandler
    (nested : ∀ line session, Quiet anyTable session (evaluate line session))
    (session : Session)
    (handler : Task Handler.requests (Except Failure Value)) :
    Quiet anyTable session (runHandler evaluate session handler) := by
  induction handler generalizing session with
  | done result => exact .refl
  | ask request resume ih =>
      rw [runHandler]
      refine (quiet_reply (fun line _ => nested line session)
        fun _ _ => trivial).bind fun outcome changes => ?_
      obtain ⟨changed, failure | answer⟩ := outcome
      · exact changes
      · exact (ih answer changed).mono fun _ later => changes.trans later

/-- Evaluating a line stores nothing and changes a session only as handlers
can.  The induction is on the levels of calls that are left. -/
theorem quiet_evaluate (levels : Nat) (line : String) (session : Session) :
    Quiet anyTable session (Session.evaluate levels line session) := by
  induction levels generalizing line session with
  | zero => exact .refl
  | succ levels ih =>
      refine ⟨id, fun isCancelled => ?_⟩
      cases isCancelled with
      | true => exact .refl
      | false =>
          cases session.read line with
          | error error => exact .refl
          | ok invocation? =>
              cases invocation? with
              | none => exact .refl
              | some invocation =>
                  refine (quiet_runHandler ih session _).bind
                    fun outcome changes => ?_
                  obtain ⟨changed, failure | value⟩ := outcome <;> exact changes

end Session
end CommandShell
