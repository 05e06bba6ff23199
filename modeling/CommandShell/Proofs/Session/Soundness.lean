import CommandShell.Proofs.Assembly
import CommandShell.Proofs.Session.Nesting
import CommandShell.Proofs.Session.Operation

/-!
# What holds in every reachable session

The system module is loaded and is the original one, and every module is loaded under its
own name and is well-formed.  Requests of handlers keep this one by one (`Sound.change`), so
it holds after any operations, and also at every point in the middle of a step, however
deeply calls are nested there.  That every macro has a valid name is kept by all requests but
one: a handler may assign a table of macros whose names nobody has checked.
-/

namespace CommandShell

namespace MacroTable

/-- Every macro has a valid name. -/
def Valid (table : MacroTable) : Prop :=
  ∀ name body, table.find? name = some body → isValidName name = true

variable {table changed : MacroTable} {name body : String}

theorem Valid.empty : Valid ∅ := by
  intro name body found
  cases found

theorem checkName_eq_ok_iff : checkName name = .ok () ↔ isValidName name = true := by
  unfold checkName
  split <;> simp_all

theorem Valid.insert (valid : table.Valid) (validName : isValidName name = true) :
    MacroTable.Valid (table.insert name body) := by
  intro other found isFound
  rw [NameMap.find?_insert] at isFound
  split at isFound
  · next same => exact same ▸ validName
  · exact valid other found isFound

theorem Valid.add (valid : table.Valid) (added : table.add name body = .ok changed) :
    changed.Valid := by
  obtain ⟨_, checked, inserted⟩ := bind_eq_ok_iff.1 added
  split at inserted
  · cases inserted
  · cases inserted
    exact valid.insert (checkName_eq_ok_iff.1 checked)

theorem Valid.edit (valid : table.Valid) (edited : table.edit name body = .ok changed) :
    changed.Valid := by
  obtain ⟨_, checked, ⟨⟩⟩ := bind_eq_ok_iff.1 edited
  exact valid.insert (checkName_eq_ok_iff.1 checked)

theorem Valid.delete (valid : table.Valid)
    (deleted : table.delete name = .ok (body, changed)) : changed.Valid := by
  unfold MacroTable.delete at deleted
  split at deleted
  · cases deleted
    intro other found isFound
    rw [NameMap.find?_erase] at isFound
    split at isFound
    · cases isFound
    · exact valid other found isFound
  · cases deleted

end MacroTable

namespace Registry

/-- The system module is loaded, and every module is loaded under its own name and is
well-formed. -/
structure Sound (registry : Registry) : Prop where
  system : ∃ system, SystemModule.module = .ok system ∧
    registry.find? SystemModule.moduleName = some system
  modules : ∀ name module, registry.find? name = some module →
    module.name = name ∧ module.WellFormed

variable {registry changed : Registry} {module : Module} {name : String}

theorem Sound.add (sound : registry.Sound) (wellFormed : module.WellFormed)
    (added : registry.add module = .ok changed) : changed.Sound := by
  unfold Registry.add at added
  split at added
  · cases added
  · next free =>
      cases added
      rw [Bool.not_eq_true] at free
      constructor
      · obtain ⟨system, isSystem, found⟩ := sound.system
        exact ⟨system, isSystem, NameMap.find?_insert_of_free free found⟩
      · intro name loaded found
        rw [NameMap.find?_insert] at found
        split at found
        · next same =>
            cases found
            exact ⟨same.symm, wellFormed⟩
        · exact sound.modules name loaded found

theorem Sound.remove (sound : registry.Sound) (allowed : name ≠ SystemModule.moduleName)
    (removed : registry.remove name = .ok changed) : changed.Sound := by
  unfold Registry.remove at removed
  split at removed
  · cases removed
    constructor
    · obtain ⟨system, isSystem, found⟩ := sound.system
      exact ⟨system, isSystem, by rw [NameMap.find?_erase, if_neg allowed.symm, found]⟩
    · intro other module found
      rw [NameMap.find?_erase] at found
      split at found
      · cases found
      · exact sound.modules other module found
  · cases removed

/-- The commands of the system module resolve by their qualified names. -/
theorem resolve_system {system : Module} (isSystem : SystemModule.module = .ok system)
    (found : registry.find? SystemModule.moduleName = some system) {command : Command}
    (listed : command ∈ Module.implicitCommands ++ SystemModule.commands) :
    registry.resolve (.qualified SystemModule.moduleName command.name) =
      .ok (system, command) := by
  obtain ⟨wellFormed, own⟩ := Module.wellFormed_of_build isSystem
  have has : system.command? command.name = some command :=
    (List.mem_append.1 listed).elim (wellFormed.implicit command) (own command)
  simp only [Registry.resolve, found, has]

end Registry

namespace Session

open CommandShell.Task (Yields)

variable {before changed after : Session} {operation : Operation} {catalog : Catalog}

section Valid

variable {assignable : MacroTable → Prop}

theorem valid_of_change (checked : ∀ table, assignable table → table.Valid)
    (valid : before.macros.Valid) (change : Change assignable before after) :
    after.macros.Valid := by
  cases change with
  | addMacro added => exact valid.add added
  | editMacro edited => exact valid.edit edited
  | deleteMacro deleted => exact valid.delete deleted
  | setMacros may => exact checked _ may
  | load | unload | blankImage | requestExit => exact valid

theorem valid_of_changes (checked : ∀ table, assignable table → table.Valid)
    (valid : before.macros.Valid) (changes : Changes assignable before after) :
    after.macros.Valid := by
  induction changes with
  | refl => exact valid
  | tail _ change ih => exact valid_of_change checked ih change

end Valid

/-- No handler assigns macros without valid names in the line that an operation runs. -/
def Orderly (session : Session) (operation : Operation) : Prop :=
  ∀ table, operation.MayAssign session table → table.Valid

/-- What a step settles for are the modules and macros that it found, or those that it
made of them. -/
theorem settled_eq {result : Except ShellError (Option Value)}
    {stored : List (Exchange signals)} (settled : Settles before changed result stored after) :
    (after.registry = before.registry ∧ after.macros = before.macros ∨
      after.registry = changed.registry ∧ after.macros = changed.macros) ∧
    after.catalog = changed.catalog := by
  cases settled with
  | aborts => exact ⟨.inl ⟨rfl, rfl⟩, rfl⟩
  | commits =>
      unfold remember
      split <;> exact ⟨.inr ⟨rfl, rfl⟩, rfl⟩

theorem valid_of_transition (orderly : before.Orderly operation) (valid : before.macros.Valid)
    (transition : Transition before operation after) : after.macros.Valid := by
  cases transition with
  | changes changes => exact valid_of_changes orderly valid changes
  | registers => exact valid
  | settles changes settled =>
      rcases (settled_eq settled).1 with ⟨-, macrosEq⟩ | ⟨-, macrosEq⟩
      · exact macrosEq ▸ valid
      · exact macrosEq ▸ valid_of_changes orderly valid changes

/-- The macros have valid names throughout a line exactly if no handler assigns others there. -/
theorem valid_within_iff (valid : before.macros.Valid) (line : String) :
    (∀ point, Within ⟨.line maxCallDepth line, before⟩ point → point.session.macros.Valid) ↔
      before.Orderly (.execute line) := by
  constructor
  · rintro within table ⟨_, ⟨⟩, levels, resume, session, assigns⟩
    have replied : Yields (reply (evaluate levels) session (.setMacros table)) []
        ({ session with macros := table }, .ok ()) := .refl _
    exact within _ (assigns.tail (.resume replied))
  · intro orderly point within
    exact valid_of_changes (fun table assigns => orderly table ⟨line, rfl, assigns⟩) valid
      (changes_of_within within)

/-- What every operation and every request of a handler keeps. -/
structure Sound (session : Session) : Prop where
  registry : session.registry.Sound
  catalog : session.catalog.Assembled

theorem Sound.change {assignable : MacroTable → Prop} (sound : before.Sound)
    (change : Change assignable before after) : after.Sound := by
  cases change with
  | load assembled listed added =>
      have wellFormed := (sound.catalog.of_instantiate assembled listed).wellFormed
      exact ⟨sound.registry.add wellFormed added, sound.catalog⟩
  | unload allowed removed =>
      exact ⟨sound.registry.remove allowed removed, sound.catalog⟩
  | addMacro | editMacro | deleteMacro | setMacros | blankImage | requestExit =>
      exact ⟨sound.registry, sound.catalog⟩

theorem Sound.changes {assignable : MacroTable → Prop} (sound : before.Sound)
    (changes : Changes assignable before after) : after.Sound := by
  induction changes with
  | refl => exact sound
  | tail _ change ih => exact ih.change change

/-- If a module is registered, it has been assembled. -/
def Operation.Assembled : Operation → Prop
  | .register module => module.Assembled
  | _ => True

theorem Sound.transition (sound : before.Sound) (assembled : operation.Assembled)
    (transition : Transition before operation after) : after.Sound := by
  cases transition with
  | changes changes => exact sound.changes changes
  | registers added =>
      have wellFormed := Module.Assembled.wellFormed assembled
      exact ⟨sound.registry.add wellFormed added, sound.catalog⟩
  | settles changes settled =>
      have during := sound.changes changes
      obtain ⟨⟨registryEq, -⟩ | ⟨registryEq, -⟩, catalogEq⟩ := settled_eq settled
      · exact ⟨registryEq ▸ sound.registry, catalogEq ▸ during.catalog⟩
      · exact ⟨registryEq ▸ during.registry, catalogEq ▸ during.catalog⟩

/-- The sessions that operations with a property make of a new one. -/
inductive ReachableBy (property : Session → Operation → Prop) (catalog : Catalog) :
    Session → Prop
  | new {session : Session} (created : Session.new catalog = .ok session) :
      ReachableBy property catalog session
  | perform {before after : Session} {operation : Operation}
      {exchanges : List (Exchange signals)} (earlier : ReachableBy property catalog before)
      (fits : property before operation)
      (performed : Yields (before.perform operation) exchanges after)
      (assembled : operation.Assembled) :
      ReachableBy property catalog after

/-- The sessions that operations make of a new one. -/
abbrev Reachable := ReachableBy fun _ _ => True

theorem sound_of_new (assembled : catalog.Assembled)
    (created : Session.new catalog = .ok after) : after.Sound := by
  obtain ⟨system, isSystem, created⟩ := bind_eq_ok_iff.1 created
  obtain ⟨registry, added, ⟨⟩⟩ := bind_eq_ok_iff.1 created
  cases added
  have named : system.name = SystemModule.moduleName := by
    cases isSystem
    rfl
  refine ⟨⟨⟨system, isSystem, ?_⟩, fun name module found => ?_⟩, assembled⟩
  · exact (NameMap.find?_insert ..).trans (if_pos named.symm)
  · rw [NameMap.find?_insert] at found
    split at found
    · next same =>
        cases found
        exact ⟨same.symm, (Module.wellFormed_of_build isSystem).1⟩
    · cases found

theorem sound_of_reachable (assembled : catalog.Assembled)
    (reachable : Reachable catalog after) : after.Sound := by
  induction reachable with
  | new created => exact sound_of_new assembled created
  | perform _ _ performed assembled ih =>
      exact ih.transition assembled (transition_of_perform performed)

theorem valid_of_reachableBy (reachable : ReachableBy Orderly catalog after) :
    after.macros.Valid := by
  induction reachable with
  | new created =>
      obtain ⟨system, -, created⟩ := bind_eq_ok_iff.1 created
      obtain ⟨registry, -, ⟨⟩⟩ := bind_eq_ok_iff.1 created
      exact MacroTable.Valid.empty
  | perform _ orderly performed _ ih =>
      exact valid_of_transition orderly ih (transition_of_perform performed)

/-- The original system module is loaded and its commands resolve, and every module is loaded
under its own name and is well-formed. -/
structure Intact (session : Session) : Prop where
  system : ∃ system, SystemModule.module = .ok system ∧
    session.registry.find? SystemModule.moduleName = some system ∧
    ∀ command ∈ Module.implicitCommands ++ SystemModule.commands,
      session.registry.resolve (.qualified SystemModule.moduleName command.name) =
        .ok (system, command)
  modules : ∀ name module, session.registry.find? name = some module →
    module.name = name ∧ module.WellFormed

theorem Sound.intact (sound : after.Sound) : after.Intact := by
  obtain ⟨system, isSystem, found⟩ := sound.registry.system
  exact ⟨⟨system, isSystem, found, fun _ => Registry.resolve_system isSystem found⟩,
    sound.registry.modules⟩

/-- A session is intact after any operations, and at every point in the middle of evaluating any
line there.  Its macros have valid names as long as no handler assigns others, and then they have
them in the middle of a line exactly if no handler does so there. -/
theorem intact_of_reachable (catalog : Catalog) (assembled : catalog.Assembled) :
    (∃ session, Session.new catalog = .ok session) ∧
      (∀ session, Reachable catalog session → session.Intact ∧
        ∀ line point, Within ⟨.line maxCallDepth line, session⟩ point →
          point.session.Intact) ∧
      ∀ session, ReachableBy Orderly catalog session → session.macros.Valid ∧
        ∀ line, (∀ point, Within ⟨.line maxCallDepth line, session⟩ point →
          point.session.macros.Valid) ↔ session.Orderly (.execute line) := by
  refine ⟨⟨_, rfl⟩, fun session reachable => ?_, fun session reachable => ?_⟩
  · have sound := sound_of_reachable assembled reachable
    exact ⟨sound.intact, fun line point within =>
      (sound.changes (changes_of_within within)).intact⟩
  · have valid := valid_of_reachableBy reachable
    exact ⟨valid, valid_within_iff valid⟩

/-- The catalog whose only library has a module with the command `go`. -/
def libraryOf (handler : Handler Value) : Catalog :=
  (∅ : Catalog).insert "lib" [Module.build "m" "1" .plain [goCommand handler]]

theorem assembled_libraryOf (handler : Handler Value) : (libraryOf handler).Assembled := by
  intro library modules found module listed
  rw [libraryOf, NameMap.find?_insert] at found
  split at found
  · cases found
    exact ⟨_, _, _, _, (List.mem_singleton.1 listed).symm⟩
  · cases found

theorem reachable_loaded {handler : Handler Value} {start : Session}
    (created : Session.new (libraryOf handler) = .ok start) :
    Reachable (libraryOf handler) (start.loadLibrary "lib").1 := by
  have loading : Yields (start.perform (.loadLibrary "lib")) []
      (start.loadLibrary "lib").1 := .refl _
  exact .perform (.new created) trivial loading trivial

/-- A handler that defines a macro, tries to unload the system module, and unloads the
module that it belongs to. -/
def meddle : Handler Value := do
  Handler.addMacro "x" "wah!"
  Handler.catchError (Handler.unloadModule "wah") fun _ => pure ()
  Handler.unloadModule "m"
  return .none

/-- What a session has become when `meddle` has made its first request. -/
def meddling (session : Session) : Session :=
  { session with macros := session.macros.insert "x" "wah!" }

def meddled (session : Session) : Session :=
  { meddling session with
    registry := session.registry.erase "m"
    previous := some .none }

theorem runs_meddle {start : Session}
    (created : Session.new (libraryOf meddle) = .ok start) :
    Yields ((start.loadLibrary "lib").1.perform (.execute "go"))
        [⟨.observe, false⟩, ⟨.observe, false⟩, ⟨.persist "x" (some "wah!"), .ok ()⟩]
        (meddled (start.loadLibrary "lib").1) ∧
      ∃ stage, Within ⟨.line maxCallDepth "go", (start.loadLibrary "lib").1⟩
        ⟨stage, meddling (start.loadLibrary "lib").1⟩ := by
  have resolved : ∃ owner, (start.loadLibrary "lib").1.registry.resolve (.bare "go") =
      .ok (owner, goCommand meddle) := by
    cases created
    exact ⟨_, rfl⟩
  obtain ⟨owner, resolved⟩ := resolved
  have reads := read_name (by decide) resolved rfl
  constructor
  · rw [perform, step_of_read reads]
    cases created
    delta runHandler
    exact .ask (.ask (.ask (.refl _)))
  · cases created
    exact ⟨_, .head (.invoke reads) (.single (.resume (.refl _)))⟩

/-- A handler cannot take the system module away, neither for the rest of its step nor
for good. -/
theorem intact_of_meddle : (libraryOf meddle).Assembled ∧
    ∃ start, Session.new (libraryOf meddle) = .ok start ∧
      Yields ((start.loadLibrary "lib").1.perform (.execute "go"))
        [⟨.observe, false⟩, ⟨.observe, false⟩, ⟨.persist "x" (some "wah!"), .ok ()⟩]
        (meddled (start.loadLibrary "lib").1) ∧
      (meddling (start.loadLibrary "lib").1).Intact ∧
      (meddled (start.loadLibrary "lib").1).Intact := by
  have assembled := assembled_libraryOf meddle
  obtain ⟨⟨start, created⟩, intact, -⟩ := intact_of_reachable (libraryOf meddle) assembled
  obtain ⟨performed, stage, within⟩ := runs_meddle created
  have loaded := reachable_loaded created
  have ended : Reachable (libraryOf meddle) (meddled (start.loadLibrary "lib").1) :=
    .perform loaded trivial performed trivial
  exact ⟨assembled, start, created, performed, (intact _ loaded).2 "go" _ within,
    (intact _ ended).1⟩

/-- A handler that assigns a table with one macro, whose name nobody has checked. -/
def overwrite : Handler Value := do
  Handler.setMacros (.ofList [("two words", "wah!")])
  return .none

def overwritten (session : Session) : Session :=
  { session with macros := .ofList [("two words", "wah!")], previous := some .none }

theorem exists_reachable_overwritten :
    ∃ session, Reachable (libraryOf overwrite) session ∧ session.macros = ∅ ∧
      Yields (session.perform (.execute "go"))
        [⟨.observe, false⟩, ⟨.observe, false⟩, ⟨.persist "two words" (some "wah!"), .ok ()⟩]
        (overwritten session) ∧
      Reachable (libraryOf overwrite) (overwritten session) := by
  obtain ⟨start, created⟩ : ∃ start, Session.new (libraryOf overwrite) = .ok start := ⟨_, rfl⟩
  have loaded := reachable_loaded created
  have resolved : ∃ owner, (start.loadLibrary "lib").1.registry.resolve (.bare "go") =
      .ok (owner, goCommand overwrite) := by
    cases created
    exact ⟨_, rfl⟩
  obtain ⟨owner, resolved⟩ := resolved
  have reads := read_name (by decide) resolved rfl
  have performed : Yields ((start.loadLibrary "lib").1.perform (.execute "go"))
      [⟨.observe, false⟩, ⟨.observe, false⟩, ⟨.persist "two words" (some "wah!"), .ok ()⟩]
      (overwritten (start.loadLibrary "lib").1) := by
    rw [perform, step_of_read reads]
    cases created
    delta runHandler
    exact .ask (.ask (.ask (.refl _)))
  have empty : (start.loadLibrary "lib").1.macros = ∅ := by
    cases created
    rfl
  exact ⟨_, loaded, empty, performed, .perform loaded trivial performed trivial⟩

/-- A macro whose name is not valid is there once a handler has assigned it. -/
theorem invalid_of_overwrite : (libraryOf overwrite).Assembled ∧
    ∃ session, Reachable (libraryOf overwrite) session ∧
      session.macros.find? "two words" = some "wah!" ∧ isValidName "two words" = false := by
  obtain ⟨_, -, -, -, reachable⟩ := exists_reachable_overwritten
  exact ⟨assembled_libraryOf overwrite, _, reachable, rfl, by decide⟩

end Session
end CommandShell
