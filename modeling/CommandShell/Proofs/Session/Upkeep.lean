import CommandShell.Proofs.Session.Addressing
import CommandShell.Proofs.Session.Execution

/-!
# Names as arguments

The commands that delete a macro, unload a module and describe a command take its name as
an argument.  Any name in double quotes is scanned as that name, but like any other word it
is an integer if it reads as one, and then the rules of these commands refuse it.
-/

namespace CommandShell

section Scanning

variable {module name flag key : String}

theorem tokenize_qualified_blank (validModule : isValidName module = true)
    (validName : isValidName name = true) (rest : String) :
    tokenize (module ++ "." ++ name ++ " " ++ rest) =
      ((CommandName.qualified module name).tokens ++ ·) <$> tokenize rest := by
  have chars : (module ++ "." ++ name ++ " " ++ rest).toList =
      (module ++ "." ++ name).toList ++ ' ' :: rest.toList := by simp
  rw [tokenize, chars, scan_qualified validModule validName (.blank rfl), Token.scan_blank rfl]
  rfl

theorem tokenize_flag_blank (valid : isValidName flag = true) (rest : String) :
    tokenize ("-" ++ flag ++ " " ++ rest) =
      ((Bundle.ItemForm.flag false flag).tokens ++ ·) <$> tokenize rest := by
  have chars : ("-" ++ flag ++ " " ++ rest).toList =
      '-' :: (flag.toList ++ ' ' :: rest.toList) := by simp
  have endsFlag : Token.EndsWord (' ' :: rest.toList) := .blank rfl
  rw [tokenize, chars, Token.scan_special Token.special_dash, Token.scan_name valid endsFlag,
    Token.scan_blank rfl]
  simp only [Functor.map_map]
  rfl

theorem tokenize_quoted_argument (validKey : isValidName key = true) (value : String) :
    tokenize (key ++ "=" ++ Token.quoted value) =
      .ok (Bundle.ItemForm.keyed key (.raw false value []) []).tokens := by
  have chars : (key ++ "=" ++ Token.quoted value).toList =
      key.toList ++ '=' :: ((Token.quoted value).toList ++ []) := by simp
  have endsKey : Token.EndsWord ('=' :: ((Token.quoted value).toList ++ [])) :=
    .special Token.special_equals (by decide)
  rw [tokenize, chars, Token.scan_name validKey endsKey,
    Token.scan_special Token.special_equals, Token.scan_quoted, Token.scan_nil]
  rfl

end Scanning

namespace Session

variable {session : Session} {module name key value : String}

theorem add?_word {previous : Option Value} {bundle : Bundle}
    (unused : bundle.hasArgument key = false) :
    Bundle.ItemForm.add? previous bundle (.keyed key (.raw false value []) []) =
      some (bundle.withArgument key (.ofRaw value)) := by
  have denotes : Bundle.ValueForm.denote? previous (.raw false value []) =
      some (.ofRaw value) := by
    have joined : ".".intercalate [value] = value := String.intercalate_singleton
    simp [Bundle.ValueForm.denote?, joined]
  exact Bundle.add?_keyed_eq_some_iff.2 ⟨_, [], denotes, rfl, unused, rfl⟩

section Reading

variable (validModule : isValidName module = true) (validName : isValidName name = true)
variable (validKey : isValidName key = true)

include validModule validName validKey

/-- A command with a single argument, whose value is in double quotes. -/
theorem read_quoted_argument (session : Session) (value : String) :
    session.read (module ++ "." ++ name ++ " " ++ (key ++ "=" ++ Token.quoted value)) = (do
      let (owner, command) ← session.registry.resolve (.qualified module name)
      checkRules command.rules (Bundle.withArgument {} key (.ofRaw value))
      return some ⟨owner, command, Bundle.withArgument {} key (.ofRaw value)⟩) := by
  have wellFormed : (CommandName.qualified module name).WellFormed :=
    ⟨ne_empty_of_isValidName validModule, ne_empty_of_isValidName validName⟩
  refine read_items [.keyed key (.raw false value []) []] ?_ wellFormed ?_
  · rw [tokenize_qualified_blank validModule validName, tokenize_quoted_argument validKey]
    simp
  · rw [List.foldlM_cons, add?_word rfl]
    rfl

/-- The same with a flag before the argument. -/
theorem read_flag_quoted_argument (session : Session) (value : String) {flag : String}
    (validFlag : isValidName flag = true) :
    session.read (module ++ "." ++ name ++ " " ++
        ("-" ++ flag ++ " " ++ (key ++ "=" ++ Token.quoted value))) = (do
      let (owner, command) ← session.registry.resolve (.qualified module name)
      checkRules command.rules ((Bundle.withFlag {} flag).withArgument key (.ofRaw value))
      return some ⟨owner, command, (Bundle.withFlag {} flag).withArgument key (.ofRaw value)⟩) := by
  have wellFormed : (CommandName.qualified module name).WellFormed :=
    ⟨ne_empty_of_isValidName validModule, ne_empty_of_isValidName validName⟩
  have nonempty : flag.isEmpty = false := by
    simpa using ne_empty_of_isValidName validFlag
  refine read_items [.flag false flag, .keyed key (.raw false value []) []] ?_ wellFormed ?_
  · rw [tokenize_qualified_blank validModule validName, tokenize_flag_blank validFlag,
      tokenize_quoted_argument validKey]
    simp
  · rw [List.foldlM_cons, Bundle.add?_flag_eq_some_iff.2 ⟨nonempty, rfl⟩]
    rw [Option.bind_eq_bind, Option.bind_some, List.foldlM_cons, add?_word rfl]
    rfl

end Reading

/-- A line with a name as the argument `key` of its command does its work and yields a value, or
the rules refuse it because the name reads as an integer. -/
structure TakesName (session : Session) (line name key : String) (changed : Session)
    (value : Value) : Prop where
  text : Text.readInteger? name = none →
    Executes line session { changed with previous := some value } (.ok (some value))
  integer : ∀ number, Text.readInteger? name = some number →
    Executes line session session (.error (.ruleViolation (Rule.typeOf .text key).violation))

theorem takesName_of_read {line : String} {target : CommandName} {owner : Module}
    {command : Command} {bundle : Bundle} {changed : Session} {result : Value}
    (reads : session.read line = (do
      let (owner, command) ← session.registry.resolve target
      checkRules command.rules (bundle.withArgument key (.ofRaw name))
      return some ⟨owner, command, bundle.withArgument key (.ofRaw name)⟩))
    (resolved : session.registry.resolve target = .ok (owner, command))
    (obeys : checkRules command.rules (bundle.withArgument key (.plainText name)) = .ok ())
    (breaks : ∀ number, checkRules command.rules (bundle.withArgument key (.integer number)) =
      .error (.ruleViolation (Rule.typeOf .text key).violation))
    (runs : runHandler (evaluate 63) session
      (command.handler owner.info (bundle.withArgument key (.plainText name))) =
        .done (changed, .ok result))
    (checked : checkResult command result = .ok (some result)) :
    TakesName session line name key changed result where
  text notInteger := by
    rw [resolved, Value.ofRaw, notInteger] at reads
    simp only [bind, Except.bind, obeys] at reads
    exact executes_of_read reads runs checked
  integer number isInteger := by
    rw [resolved, Value.ofRaw, isInteger] at reads
    simp only [bind, Except.bind, breaks] at reads
    exact executes_of_read_error reads

theorem Sound.resolve_wah (sound : session.Sound) (command : Command)
    (listed : command ∈ Module.implicitCommands ++ SystemModule.commands) :
    ∃ system, session.registry.resolve (.qualified "wah" command.name) = .ok (system, command) := by
  obtain ⟨system, isSystem, found⟩ := sound.registry.system
  exact ⟨system, Registry.resolve_system isSystem found listed⟩

theorem Sound.takesName_unload (sound : session.Sound) {loaded : Module}
    (found : session.registry.find? name = some loaded) (other : name ≠ SystemModule.moduleName) :
    TakesName session ("wah.unload mod=" ++ Token.quoted name) name "mod"
      { session with registry := session.registry.erase name } .none := by
  obtain ⟨rfl, wellFormed⟩ := sound.registry.modules name loaded found
  obtain ⟨system, resolved⟩ := sound.resolve_wah SystemModule.unloadCommand
    (by simp [SystemModule.commands])
  have lineEq : "wah.unload mod=" ++ Token.quoted loaded.name =
      "wah" ++ "." ++ "unload" ++ " " ++ ("mod" ++ "=" ++ Token.quoted loaded.name) := by
    simp [← String.toList_inj]
  have validWah : isValidName "wah" = true := by decide
  have validUnload : isValidName "unload" = true := by decide
  have validKey : isValidName "mod" = true := by decide
  have reads := read_quoted_argument validWah validUnload validKey session loaded.name
  have unloaded : session.unloadModule loaded.name =
      .ok { session with registry := session.registry.erase loaded.name } := by
    have isLoaded : session.registry.contains loaded.name = true :=
      Option.isSome_of_eq_some found
    rw [unloadModule, if_neg other, Registry.remove, if_pos isLoaded]
    rfl
  rw [← lineEq] at reads
  -- the rules decide by the kind of the argument, so they compute on either kind
  refine takesName_of_read reads resolved rfl (fun _ => rfl) ?_ rfl
  have replied : reply (evaluate 63) session (.unloadModule loaded.name) =
      .done ({ session with registry := session.registry.erase loaded.name }, .ok (.ok ())) := by
    rw [reply, unloaded]
    rfl
  exact runHandler_ask replied

theorem Sound.takesName_delete (sound : session.Sound) {body : String}
    (found : session.macros.find? name = some body) :
    TakesName session ("wah.macro -delete name=" ++ Token.quoted name) name "name"
      { session with macros := session.macros.erase name } .none := by
  obtain ⟨system, resolved⟩ := sound.resolve_wah SystemModule.macroCommand
    (by simp [SystemModule.commands])
  have lineEq : "wah.macro -delete name=" ++ Token.quoted name =
      "wah" ++ "." ++ "macro" ++ " " ++
        ("-" ++ "delete" ++ " " ++ ("name" ++ "=" ++ Token.quoted name)) := by
    simp [← String.toList_inj]
  have validWah : isValidName "wah" = true := by decide
  have validMacro : isValidName "macro" = true := by decide
  have validFlag : isValidName "delete" = true := by decide
  have validKey : isValidName "name" = true := by decide
  have reads := read_flag_quoted_argument validWah validMacro validKey session name validFlag
  have deleted : session.deleteMacro name =
      .ok (body, { session with macros := session.macros.erase name }) := by
    rw [deleteMacro, MacroTable.delete, found]
    rfl
  have replied : reply (evaluate 63) session (.deleteMacro name) =
      .done ({ session with macros := session.macros.erase name }, .ok (.ok body)) := by
    rw [reply, deleted]
    rfl
  rw [← lineEq] at reads
  refine takesName_of_read reads resolved rfl (fun _ => rfl) ?_ rfl
  exact runHandler_ask replied

/-- A command that a module has is among those that its handlers see. -/
theorem exists_described {loaded : Module} {command : Command}
    (has : loaded.command? command.name = some command) :
    ∃ described, (loaded.info.commands.find? fun listed => listed.name == command.name) =
        some described ∧ described.name = command.name := by
  have listed : command ∈ loaded.commands.values := NameMap.mem_values_of_find? has
  have isSome : (loaded.info.commands.find? fun listed =>
      listed.name == command.name).isSome = true := by
    rw [List.find?_isSome]
    exact ⟨command.toSignature, List.mem_map_of_mem listed, beq_self_eq_true _⟩
  obtain ⟨described, isDescribed⟩ := Option.isSome_iff_exists.1 isSome
  have sameName := List.find?_some isDescribed
  exact ⟨described, isDescribed, eq_of_beq sameName⟩

theorem describeCommand_eq (module : ModuleInfo) (command : Signature) :
    ∃ others, Module.describeCommand module command =
      .text (module.name ++ "." ++ command.name) module.color :: others := ⟨_, rfl⟩

theorem Sound.takesName_help (sound : session.Sound) {loaded : Module} {command : Command}
    (found : session.registry.find? module = some loaded)
    (has : loaded.command? name = some command) :
    ∃ others, TakesName session (module ++ ".help cmd=" ++ Token.quoted name) name "cmd" session
      (.list (.text (module ++ "." ++ name) loaded.color :: others)) := by
  obtain ⟨rfl, wellFormed⟩ := sound.registry.modules module loaded found
  obtain ⟨rfl, -⟩ := wellFormed.named name command has
  have resolved : session.registry.resolve (.qualified loaded.name "help") =
      .ok (loaded, Module.helpCommand) := by
    have help : loaded.command? "help" = some Module.helpCommand :=
      wellFormed.implicit Module.helpCommand (by simp [Module.implicitCommands])
    simp only [Registry.resolve, found, help]
  have lineEq : loaded.name ++ ".help cmd=" ++ Token.quoted command.name =
      loaded.name ++ "." ++ "help" ++ " " ++ ("cmd" ++ "=" ++ Token.quoted command.name) := by
    simp [← String.toList_inj]
  have validHelp : isValidName "help" = true := by decide
  have validKey : isValidName "cmd" = true := by decide
  have reads := read_quoted_argument wellFormed.validName validHelp validKey session command.name
  rw [← lineEq] at reads
  obtain ⟨described, isDescribed, sameName⟩ := exists_described has
  obtain ⟨others, lines⟩ := describeCommand_eq loaded.info described
  have described : Module.helpCommand.handler loaded.info
      (Bundle.withArgument {} "cmd" (.plainText command.name)) =
        .done (.ok
          (.list (.text (loaded.name ++ "." ++ command.name) loaded.color :: others))) := by
    have argument : (Bundle.withArgument {} "cmd" (.plainText command.name)).get? "cmd" =
        some (.text command.name Color.text) := rfl
    simp only [Module.helpCommand, argument, isDescribed, lines, sameName]
    rfl
  refine ⟨others, takesName_of_read reads resolved rfl (fun _ => rfl) ?_ rfl⟩
  rw [described]
  rfl

/-- Everything that has a name can be managed by it, unless it reads as an integer: a macro can be
deleted, a module other than that of the system can be unloaded, and the description of a command
begins with its full name. -/
structure Manageable (session : Session) : Prop where
  macros : ∀ name body, session.macros.find? name = some body →
    TakesName session ("wah.macro -delete name=" ++ Token.quoted name) name "name"
      { session with macros := session.macros.erase name } .none
  modules : ∀ name module, session.registry.find? name = some module →
    name ≠ SystemModule.moduleName →
      TakesName session ("wah.unload mod=" ++ Token.quoted name) name "mod"
        { session with registry := session.registry.erase name } .none
  commands : ∀ module loaded name command, session.registry.find? module = some loaded →
    loaded.command? name = some command → ∃ others,
      TakesName session (module ++ ".help cmd=" ++ Token.quoted name) name "cmd" session
        (.list (.text (module ++ "." ++ name) loaded.color :: others))

theorem Sound.manageable (sound : session.Sound) : Manageable session where
  macros _ _ := sound.takesName_delete
  modules _ _ := sound.takesName_unload
  commands _ _ _ _ := sound.takesName_help

theorem manageable_of_reachable (catalog : Catalog) (assembled : catalog.Assembled)
    (session : Session) (reachable : Reachable catalog session) : Manageable session :=
  (sound_of_reachable assembled reachable).manageable

/-- A macro can be deleted although its name has a blank in it, which no check lets through. -/
theorem manageable_with_blank : (libraryOf overwrite).Assembled ∧
    ∃ session, Reachable (libraryOf overwrite) session ∧
      session.macros.find? "two words" = some "wah!" ∧
      Executes "wah.macro -delete name=\"two words\"" session
        { session with macros := session.macros.erase "two words", previous := some .none }
        (.ok (some .none)) := by
  have assembled := assembled_libraryOf overwrite
  obtain ⟨session, -, -, -, reachable⟩ := exists_reachable_overwritten
  have defined : (overwritten session).macros.find? "two words" = some "wah!" := rfl
  have manageable := manageable_of_reachable _ assembled _ reachable
  have lineEq : "wah.macro -delete name=" ++ Token.quoted "two words" =
      "wah.macro -delete name=\"two words\"" := by decide +kernel
  have deleted := (manageable.macros _ _ defined).text (by decide)
  rw [lineEq] at deleted
  exact ⟨assembled, _, reachable, defined, deleted⟩

/-- A macro whose name reads as an integer cannot. -/
theorem not_deleted_of_integer :
    ∃ session, Reachable ∅ session ∧ session.macros.find? "7" = some "wah!" ∧
      Executes "wah.macro -delete name=\"7\"" session session
        (.error (.ruleViolation "The name argument is of the wrong type, expected text.")) ∧
      ¬ ∃ after value?, Executes "wah.macro -delete name=\"7\"" session after (.ok value?) := by
  have assembled : (∅ : Catalog).Assembled := nofun
  obtain ⟨session, reachable, defined⟩ := exists_reachable_with_macro "7" "wah!" (by decide)
  have sound := sound_of_reachable assembled reachable
  have lineEq : "wah.macro -delete name=" ++ Token.quoted "7" =
      "wah.macro -delete name=\"7\"" := by decide +kernel
  have refused := (sound.takesName_delete defined).integer 7 (by decide)
  rw [lineEq] at refused
  refine ⟨session, reachable, defined, refused, ?_⟩
  rintro ⟨after, value?, executes⟩
  obtain ⟨exchanges, uncancelled, steps⟩ := executes.some
  cases refused.every exchanges _ uncancelled steps

end Session
end CommandShell
