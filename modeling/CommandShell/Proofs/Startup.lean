import CommandShell.CommandLine
import CommandShell.Proofs.Shell

/-!
# Starting with stored macros

Attaching a store to a shell adds the macros that it holds where their names are free.  An invalid
name ends that: what was added before stays, and the store is not attached (`attachesStore`).

The program begins with the macros of its file and adds those of its configuration in the same
way.  With names that are all valid nothing can go wrong there (`assemble_of_valid`), and a
configuration that has been loaded has valid names.
-/

namespace CommandShell

open CommandShell.Task (Yields yields_ask_iff yields_bind_iff yields_done_iff)

namespace Shell

/-- What attaching a store does with what was loaded from it.  Neither the store nor one that was
attached before is told of any change. -/
structure AttachesStore (shell : Shell) (store : MacroStore)
    (loaded : Except String (NameMap String)) : Prop where
  fails_iff : (∃ reason, (shell.attachStore store loaded).2 = .error reason) ↔
    (∃ reason, loaded = .error reason) ∨
      ∃ stored name, loaded = .ok stored ∧ shell.session.macros.Obstructs stored name
  unloaded : ∀ reason, loaded = .error reason →
    shell.attachStore store loaded = (shell, .error reason)
  attached : ∀ stored, loaded = .ok stored →
    (∀ name, ¬ shell.session.macros.Obstructs stored name) →
      ∃ macros : MacroTable, shell.attachStore store loaded =
          ({ session := { shell.session with macros },
             outlets := { shell.outlets with store := some store } }, .ok ()) ∧
        ∀ name, macros.find? name = (shell.session.macros.find? name <|> stored.find? name)
  /-- With an invalid name among those to be added, the names in front of the first are added. -/
  refused : ∀ stored name, loaded = .ok stored → shell.session.macros.Obstructs stored name →
    ∃ first, ∃ macros : MacroTable, shell.session.macros.Obstructs stored first ∧
      (∀ other, shell.session.macros.Obstructs stored other → first ≤ other) ∧
      shell.attachStore store loaded =
        ({ shell with session := { shell.session with macros } },
          .error (ShellError.badUsage s!"\"{first}\" is not a valid macro name").message) ∧
      ∀ other, macros.find? other = (shell.session.macros.find? other <|>
        if other < first then stored.find? other else none)

section Attaching

variable {shell : Shell} {stored : NameMap String} {macros : MacroTable} {error : ShellError}

theorem attachStore_of_adopt_ok (store : MacroStore)
    (adopted : shell.session.macros.adopt stored.toList = (macros, .ok ())) :
    shell.attachStore store (.ok stored) =
      ({ session := { shell.session with macros },
         outlets := { shell.outlets with store := some store } }, .ok ()) := by
  rw [attachStore, Session.adoptMacros, adopted]

theorem attachStore_of_adopt_error (store : MacroStore)
    (adopted : shell.session.macros.adopt stored.toList = (macros, .error error)) :
    shell.attachStore store (.ok stored) =
      ({ shell with session := { shell.session with macros } }, .error error.message) := by
  rw [attachStore, Session.adoptMacros, adopted]

end Attaching

theorem attachesStore (shell : Shell) (store : MacroStore)
    (loaded : Except String (NameMap String)) : shell.AttachesStore store loaded := by
  cases loaded with
  | error reason =>
      have unloaded : shell.attachStore store (.error reason) = (shell, .error reason) := rfl
      constructor
      · exact ⟨fun _ => .inl ⟨reason, rfl⟩, fun _ => ⟨reason, rfl⟩⟩
      · rintro _ ⟨⟩
        exact unloaded
      · exact nofun
      · exact nofun
  | ok stored =>
      have adopted := shell.session.macros.adopts stored
      generalize adoptedEq : shell.session.macros.adopt stored.toList = result at adopted
      cases adopted with
      | all fits found =>
          have attachedEq := attachStore_of_adopt_ok store adoptedEq
          constructor
          · rw [attachedEq]
            constructor
            · rintro ⟨_, ⟨⟩⟩
            · rintro (⟨_, ⟨⟩⟩ | ⟨_, name, ⟨⟩, obstructs⟩)
              exact absurd obstructs (fits name)
          · exact nofun
          · rintro _ ⟨⟩ -
            exact ⟨_, attachedEq, found⟩
          · rintro _ name ⟨⟩ obstructs
            exact absurd obstructs (fits name)
      | front obstructs least found =>
          have refusedEq := attachStore_of_adopt_error store adoptedEq
          constructor
          · rw [refusedEq]
            exact ⟨fun _ => .inr ⟨stored, _, rfl, obstructs⟩, fun _ => ⟨_, rfl⟩⟩
          · exact nofun
          · rintro _ ⟨⟩ fits
            exact absurd obstructs (fits _)
          · rintro _ name ⟨⟩ -
            exact ⟨_, _, obstructs, least, refusedEq, found⟩

end Shell

namespace Config

theorem validate_eq_ok_iff {config : Config} : config.validate = .ok () ↔
    isBlankText config.prompt = false ∧ MacroTable.Valid config.macros := by
  have valid_iff : (config.macros.names.find? fun name => !isValidName name) = none ↔
      MacroTable.Valid config.macros := by
    rw [List.find?_eq_none]
    constructor
    · intro valid name body found
      simpa using valid name (List.mem_map_of_mem (NameMap.mem_toList_iff.2 found))
    · intro valid name listed
      obtain ⟨⟨_, body⟩, entry, rfl⟩ := List.mem_map.1 listed
      simp [valid _ body (NameMap.mem_toList_iff.1 entry)]
  unfold validate
  cases isBlankText config.prompt with
  | true => simp
  | false =>
      rw [if_neg Bool.false_ne_true, ← valid_iff]
      cases config.macros.names.find? fun name => !isValidName name <;> simp

theorem validate_default : Config.validate {} = .ok () := by
  decide

end Config

namespace CommandLine

variable {config : Config} {stored : NameMap String}
variable {environment : Environment} {options : Options} {libraries : Libraries}
variable {exchanges : List (Exchange Host.requests)}

theorem defineMacros_eq (session : Session) (entries : List (String × String)) :
    defineMacros session entries =
      (session.macros.adopt entries).2.map fun _ =>
        { session with macros := (session.macros.adopt entries).1 } := by
  induction entries generalizing session with
  | nil => rfl
  | cons entry entries ih =>
      obtain ⟨name, body⟩ := entry
      rw [defineMacros, MacroTable.adopt]
      split
      · exact ih session
      · rw [Session.editMacro]
        cases session.macros.edit name body with
        | error error => rfl
        | ok extended => exact ih { session with macros := extended }

theorem macros_autoload (session : Session) (libraries : List String) :
    (autoload session libraries).macros = session.macros := by
  induction libraries generalizing session with
  | nil => rfl
  | cons library libraries ih =>
      exact (ih (session.loadLibrary library).1).trans (Session.macros_loadLibrary session library)

/-- With valid names everywhere a session is assembled, and it has the stored macros first. -/
theorem assemble_of_valid (validated : config.validate = .ok ()) (valid : MacroTable.Valid stored)
    (noAutoload : Bool) :
    ∃ session, assemble config stored noAutoload = .ok session ∧
      ∀ name, session.macros.find? name =
        (stored.find? name <|> config.macros.find? name) := by
  obtain ⟨-, validConfig⟩ := Config.validate_eq_ok_iff.1 validated
  obtain ⟨start, created, empty⟩ :
      ∃ start, Session.new Builtin.catalog = .ok start ∧ start.macros = ∅ := ⟨_, rfl, rfl⟩
  have adopted : start.macros.adopt stored.toList = (stored, .ok ()) := by
    rw [empty, MacroTable.adopt_empty valid]
  obtain ⟨macros, defined, found⟩ := MacroTable.adopt_of_valid stored validConfig
  have definedEq : defineMacros { start with macros := stored } config.macros.toList =
      .ok { start with macros } := by
    rw [defineMacros_eq, defined]
    rfl
  let defined : Session := { start with macros }
  refine ⟨if noAutoload then defined else autoload defined config.autoload, ?_, fun name => ?_⟩
  · refine bind_eq_ok_iff.2 ⟨start, created, bind_eq_ok_iff.2 ⟨(), congrArg Prod.snd adopted, ?_⟩⟩
    rw [adopted]
    exact bind_eq_ok_iff.2 ⟨defined, definedEq, rfl⟩
  · cases noAutoload with
    | true => exact found name
    | false =>
        rw [if_neg Bool.false_ne_true, macros_autoload]
        exact found name

theorem validate_of_configuration
    (configures : Yields (configuration environment options libraries) exchanges (.ok config)) :
    config.validate = .ok () := by
  unfold configuration at configures
  split at configures
  · obtain ⟨-, ⟨⟩⟩ := yields_done_iff.1 configures
    exact Config.validate_default
  · next path _ =>
      obtain ⟨answer, later, rfl, rest⟩ := yields_ask_iff.1 configures
      rcases answer with (_ | _) | text
      · obtain ⟨-, ⟨⟩⟩ := yields_done_iff.1 rest
        exact Config.validate_default
      · cases (yields_done_iff.1 rest).2
      · dsimp only [Task.bind] at rest
        split at rest
        · cases (yields_done_iff.1 rest).2
        · split at rest
          · cases (yields_done_iff.1 rest).2
          · next validated =>
              obtain ⟨-, ⟨⟩⟩ := yields_done_iff.1 rest
              exact validated

theorem yields_start {configuring loading : List (Exchange Host.requests)} {session : Session}
    (configures : Yields (configuration environment options libraries) configuring (.ok config))
    (logs : options.log.all libraries.isLogFilter = true)
    (loads : Yields (storedMacros libraries.macros config.macroFile) loading (.ok stored))
    (assembled : assemble config stored options.noAutoload = .ok session) :
    Yields (start environment options libraries) (configuring ++ loading) (some {
      session
      colored := environment.colored
      macroFile := config.macroFile
      prompt := config.prompt
      command := options.command }) := by
  refine yields_bind_iff.2 ⟨configuring, _, loading, rfl, configures, ?_⟩
  simp only [logs]
  refine yields_bind_iff.2 ⟨loading, _, [], (List.append_nil _).symm, loads, ?_⟩
  simp only [assembled]
  exact .refl _

/-- Stored macros are added where their names are free, up to the first that cannot be, and the
program starts with the macros of its file before those of its configuration. -/
theorem starts_with_stored_macros :
    (∀ shell store loaded, Shell.AttachesStore shell store loaded) ∧
      (∀ config stored noAutoload, config.validate = .ok () → MacroTable.Valid stored →
        ∃ session, assemble config stored noAutoload = .ok session ∧
          ∀ name, session.macros.find? name =
            (stored.find? name <|> config.macros.find? name)) ∧
      ∀ libraries environment options configuring loading config stored,
        Yields (configuration environment options libraries) configuring (.ok config) →
        options.log.all libraries.isLogFilter = true →
        Yields (storedMacros libraries.macros config.macroFile) loading (.ok stored) →
        MacroTable.Valid stored →
          ∃ program,
            Yields (start environment options libraries) (configuring ++ loading)
              (some program) ∧
            ∀ name, program.session.macros.find? name =
              (stored.find? name <|> config.macros.find? name) := by
  refine ⟨Shell.attachesStore, fun _ _ noAutoload validated valid =>
    assemble_of_valid validated valid noAutoload, ?_⟩
  intro libraries environment options configuring loading config stored configures logs loads valid
  obtain ⟨session, assembled, found⟩ :=
    assemble_of_valid (validate_of_configuration configures) valid options.noAutoload
  exact ⟨_, yields_start configures logs loads assembled, found⟩

def settings : String := "macro_file = \"m\"\n[macros]\nx = \"1\"\ny = \"2\"\n"

theorem exists_settings : ∃ config, Config.parse? settings = some config ∧
    config.validate = .ok () ∧ config.macroFile = some "m" ∧
    config.macros = .ofList [("x", "1"), ("y", "2")] := by
  have read : ((Config.parse? settings).map fun config =>
      (config.validate.toBool, config.macroFile, config.macros)) =
        some (true, some "m", .ofList [("x", "1"), ("y", "2")]) := by
    decide +kernel
  obtain ⟨config, configEq, same⟩ := Option.map_eq_some_iff.1 read
  obtain ⟨validated, file, macros⟩ : config.validate.toBool = true ∧ config.macroFile = some "m" ∧
      config.macros = .ofList [("x", "1"), ("y", "2")] := by
    simpa using same
  refine ⟨config, configEq, ?_, file, macros⟩
  cases validates : config.validate with
  | error error =>
      rw [validates] at validated
      cases validated
  | ok => rfl

def ofMacro (name body : String) : Shell :=
  { session := { registry := ∅, macros := .ofList [(name, body)] } }

def mixedMacros : NameMap String :=
  .ofList [("a", "1"), ("b c", "2"), ("e", "3")]

/-- A macro that is stored under an invalid name keeps those behind it out, and of two bodies of
one macro the stored one counts. -/
theorem starts_with_stored_body :
    (∃ reason, ((ofMacro "d" "0").attachStore {} (.ok mixedMacros)).2 = .error reason) ∧
      ((ofMacro "d" "0").attachStore {} (.ok mixedMacros)).1.session.macros.find? "e" = none ∧
      ∃ program,
        Yields (start { configDirectory := none } { config := some "c" })
          [⟨.readFile "c", .ok settings⟩, ⟨.pathExists "m", true⟩,
            ⟨.readFile "m", .ok (MacroFile.write (.ofList [("x", "3")]))⟩] (some program) ∧
          program.session.macros.find? "x" = some "3" ∧
          program.session.macros.find? "y" = some "2" := by
  obtain ⟨attaches, -, starts⟩ := starts_with_stored_macros
  have obstructs : (ofMacro "d" "0").session.macros.Obstructs mixedMacros "b c" :=
    ⟨by decide, by decide, by decide⟩
  obtain ⟨first, macros, -, least, refusedEq, found⟩ :=
    (attaches (ofMacro "d" "0") {} _).refused _ "b c" rfl obstructs
  refine ⟨⟨_, by rw [refusedEq]⟩, ?_, ?_⟩
  · -- the first obstacle is "b c" or in front of it, and "e" is behind that
    have behind : ¬ "e" < first := by
      have smaller := least _ obstructs
      exact String.not_lt.2 (String.le_trans smaller (by decide))
    rw [refusedEq]
    exact (found "e").trans (by rw [if_neg behind]; rfl)
  · obtain ⟨config, configEq, validated, file, configMacros⟩ := exists_settings
    have configures : Yields (configuration { configDirectory := none } { config := some "c" })
        [⟨.readFile "c", .ok settings⟩] (.ok config) := by
      refine .ask ?_
      dsimp only [Task.bind, Libraries.standard]
      rw [configEq]
      dsimp only
      rw [validated]
      exact .refl _
    have loads : Yields (storedMacros Libraries.standard.macros config.macroFile)
        [⟨.pathExists "m", true⟩, ⟨.readFile "m", .ok (MacroFile.write (.ofList [("x", "3")]))⟩]
        (.ok (.ofList [("x", "3")])) := by
      have read : MacroFormat.toml.parse? (MacroFile.write (.ofList [("x", "3")])) =
          some (.ofList [("x", "3")]) := MacroFile.parse?_write _
      rw [file]
      refine .ask (.ask ?_)
      dsimp only [Task.bind, Libraries.standard]
      rw [read]
      exact .refl _
    have valid : MacroTable.Valid (.ofList [("x", "3")]) :=
      MacroTable.Valid.empty.insert (by decide)
    obtain ⟨program, yields, programFound⟩ :=
      starts .standard { configDirectory := none } { config := some "c" } _ _ config _ configures
        rfl loads valid
    refine ⟨program, yields, programFound "x", ?_⟩
    rw [programFound, configMacros]
    rfl

end CommandLine

end CommandShell
