import CommandShell.Proofs.Session.Reading

/-!
# Handlers and the rules of their commands

A handler runs only with a bundle that obeys the rules of its command.  To say so of a
whole evaluation, with all the calls in it, other handlers are put in place for the other
bundles (`Session.guard`): whatever these would do, no evaluation comes to anything else.
-/

namespace CommandShell

/-- What commands are to do with bundles that break their rules. -/
abbrev Substitute := Signature → ModuleInfo → Bundle → Handler Value

/-- The command whose handler is only for the bundles that obey its rules. -/
def Command.guard (substitute : Substitute) (command : Command) : Command :=
  { command with
    handler := fun owner bundle =>
      if command.rules.all (Rule.holds bundle) then command.handler owner bundle
      else substitute command.toSignature owner bundle }

def Module.guard (substitute : Substitute) (module : Module) : Module :=
  { module with commands := module.commands.map (Command.guard substitute) }

/-- The session in which all handlers, also those of the libraries, are only for the bundles
that obey the rules. -/
def Session.guard (substitute : Substitute) (session : Session) : Session :=
  { session with
    registry := session.registry.map (Module.guard substitute)
    catalog := session.catalog.map (List.map (Except.map (Module.guard substitute))) }

namespace Session

variable {substitute : Substitute} {session : Session} {line : String}

section Fields

variable (module : Module)

@[simp]
theorem name_guard : (module.guard substitute).name = module.name := rfl

@[simp]
theorem registry_guard :
    (session.guard substitute).registry = session.registry.map (Module.guard substitute) := rfl

@[simp]
theorem macros_guard : (session.guard substitute).macros = session.macros := rfl

@[simp]
theorem previous_guard : (session.guard substitute).previous = session.previous := rfl

@[simp]
theorem images_guard : (session.guard substitute).images = session.images := rfl

@[simp]
theorem catalog_guard : (session.guard substitute).catalog =
    session.catalog.map (List.map (Except.map (Module.guard substitute))) := rfl

end Fields

section Guards

theorem map_ok {ε α β : Type} (f : α → β) (value : α) :
    f <$> (.ok value : Except ε α) = .ok (f value) := rfl

theorem hasCommand_guard (module : Module) (name : String) :
    (module.guard substitute).hasCommand name = module.hasCommand name :=
  NameMap.contains_map ..

theorem command?_guard (module : Module) (name : String) :
    (module.guard substitute).command? name =
      (module.command? name).map (Command.guard substitute) :=
  NameMap.find?_map ..

theorem info_guard (module : Module) : (module.guard substitute).info = module.info := by
  simp only [Module.info, Module.guard, NameMap.values_map, List.map_map]
  rfl

theorem owners_guard (registry : Registry) (name : String) :
    Registry.owners (registry.map (Module.guard substitute)) name =
      (registry.owners name).map (Module.guard substitute) := by
  simp only [Registry.owners, NameMap.values_map, List.filter_map, Function.comp_def,
    hasCommand_guard]

theorem resolve_guard (registry : Registry) (name : CommandName) :
    Registry.resolve (registry.map (Module.guard substitute)) name =
      (fun found => (found.1.guard substitute, found.2.guard substitute)) <$>
        registry.resolve name := by
  cases name with
  | qualified module command =>
      simp only [Registry.resolve, NameMap.find?_map]
      cases registry.find? module with
      | none => rfl
      | some owner =>
          simp only [Option.map_some, command?_guard]
          cases owner.command? command <;> rfl
  | bare command =>
      simp only [Registry.resolve, owners_guard]
      cases registry.owners command with
      | nil => rfl
      | cons owner others =>
          cases others with
          | nil =>
              simp only [List.map_cons, List.map_nil, command?_guard]
              cases owner.command? command <;> rfl
          | cons second others =>
              simp only [List.map_cons, List.map_map]
              rfl

/-- The invocation of the guarded command with the same bundle. -/
def Invocation.guard (substitute : Substitute) (invocation : Invocation) : Invocation where
  owner := invocation.owner.guard substitute
  command := invocation.command.guard substitute
  bundle := invocation.bundle

theorem read_guard (session : Session) (line : String) :
    (session.guard substitute).read line =
      Option.map (Invocation.guard substitute) <$> session.read line := by
  simp only [read, macros_guard, previous_guard, registry_guard, resolve_guard, map_bind,
    bind_map_left]
  refine bind_congr fun typed => bind_congr fun tokens => ?_
  cases tokens with
  | nil => rfl
  | cons first others =>
      simp only [List.isEmpty_cons, Bool.false_eq_true, if_false, map_bind]
      rfl

theorem add_guard (registry : Registry) (module : Module) :
    Registry.add (registry.map (Module.guard substitute)) (module.guard substitute) =
      NameMap.map (Module.guard substitute) <$> registry.add module := by
  simp only [Registry.add, name_guard, NameMap.contains_map, ← NameMap.map_insert]
  split <;> rfl

theorem remove_guard (registry : Registry) (name : String) :
    Registry.remove (registry.map (Module.guard substitute)) name =
      NameMap.map (Module.guard substitute) <$> registry.remove name := by
  simp only [Registry.remove, NameMap.contains_map, ← NameMap.map_erase]
  split <;> rfl

theorem register_guard (session : Session) (module : Module) :
    (session.guard substitute).register (module.guard substitute) =
      Session.guard substitute <$> session.register module := by
  simp only [register, registry_guard, add_guard, bind_map_left, map_bind]
  rfl

theorem registerAll_guard (session : Session) (modules : List Module) :
    (session.guard substitute).registerAll (modules.map (Module.guard substitute)) =
      ((session.registerAll modules).1.guard substitute, (session.registerAll modules).2) := by
  induction modules generalizing session with
  | nil => rfl
  | cons module modules ih =>
      simp only [List.map_cons, registerAll, register_guard]
      cases session.register module with
      | error error => rfl
      | ok extended =>
          simp only [map_ok, ih]
          rfl

theorem instantiate_guard (session : Session) (library : String) :
    (session.guard substitute).catalog.instantiate library =
      List.map (Module.guard substitute) <$> session.catalog.instantiate library := by
  simp only [Catalog.instantiate, catalog_guard, NameMap.find?_map]
  cases session.catalog.find? library with
  | none => rfl
  | some modules =>
      simp only [Option.map_some]
      induction modules with
      | nil => rfl
      | cons result results ih =>
          simp only [List.map_cons, List.mapM_cons, ih, map_bind, bind_map_left]
          cases result <;> rfl

theorem loadLibrary_guard (session : Session) (library : String) :
    (session.guard substitute).loadLibrary library =
      ((session.loadLibrary library).1.guard substitute, (session.loadLibrary library).2) := by
  simp only [loadLibrary, instantiate_guard]
  cases session.catalog.instantiate library with
  | error error => rfl
  | ok modules =>
      simp only [map_ok, registry_guard, NameMap.contains_map, List.find?_map,
        Function.comp_def, name_guard]
      cases modules.find? fun module => session.registry.contains module.name with
      | some taken => rfl
      | none => exact registerAll_guard session modules

theorem loadModule_guard (session : Session) (library name : String) :
    (session.guard substitute).loadModule library name =
      Session.guard substitute <$> session.loadModule library name := by
  simp only [loadModule, instantiate_guard, bind_map_left, map_bind]
  refine bind_congr fun modules => ?_
  simp only [List.find?_map, Function.comp_def, name_guard]
  cases modules.find? fun module => module.name == name with
  | none => rfl
  | some module => exact register_guard session module

theorem unloadModule_guard (session : Session) (name : String) :
    (session.guard substitute).unloadModule name =
      Session.guard substitute <$> session.unloadModule name := by
  simp only [unloadModule, registry_guard, remove_guard]
  split
  · rfl
  · simp only [bind_map_left, map_bind]
    rfl

end Guards

section Evaluations

/-- The outcome in the guarded session. -/
def guardOutcome {α : Type} (substitute : Substitute) (outcome : Outcome α) : Outcome α :=
  (outcome.1.guard substitute, outcome.2)

variable {evaluate : String → Session → Task signals (Outcome (Option Value))}

theorem reply_guard
    (nested : ∀ line session, evaluate line (session.guard substitute) =
      guardOutcome substitute <$> evaluate line session)
    (session : Session) (request : Handler.Request) :
    reply evaluate (session.guard substitute) request =
      guardOutcome substitute <$> reply evaluate session request := by
  cases request with
  | addMacro name body =>
      simp only [reply, Session.addMacro, macros_guard]
      cases session.macros.add name body <;> rfl
  | editMacro name body =>
      simp only [reply, Session.editMacro, macros_guard]
      cases session.macros.edit name body <;> rfl
  | deleteMacro name =>
      simp only [reply, Session.deleteMacro, macros_guard]
      cases session.macros.delete name <;> rfl
  | setMacros macros => rfl
  | listMacros => rfl
  | listModules =>
      have infosEq : (session.guard substitute).registry.values.map Module.info =
          session.registry.values.map Module.info := by
        simp only [registry_guard, NameMap.values_map, List.map_map, Function.comp_def,
          info_guard]
      simp only [reply, infosEq]
      rfl
  | loadLibrary library =>
      simp only [reply, loadLibrary_guard]
      rfl
  | loadModule library name =>
      simp only [reply, loadModule_guard]
      cases session.loadModule library name <;> rfl
  | unloadModule name =>
      simp only [reply, unloadModule_guard]
      cases session.unloadModule name <;> rfl
  | blankImage width height =>
      simp only [reply, Session.blankImage, images_guard]
      cases Image.blank session.images width height <;> rfl
  | print value =>
      simp only [reply, map_bind]
      refine bind_congr fun delivery => ?_
      cases delivery <;> rfl
  | call line =>
      simp only [reply, nested, map_bind, bind_map_left]
      refine bind_congr fun outcome => ?_
      obtain ⟨changed, (error | text) | value⟩ := outcome <;> rfl
  | requestExit => rfl
  | checkpoint => rfl
  | sleep milliseconds => rfl
  | awaitRelease => rfl
  | cancelStep => rfl
  | submitLine line => rfl

theorem runHandler_guard
    (nested : ∀ line session, evaluate line (session.guard substitute) =
      guardOutcome substitute <$> evaluate line session)
    (session : Session) (handler : Task Handler.requests (Except Failure Value)) :
    runHandler evaluate (session.guard substitute) handler =
      guardOutcome substitute <$> runHandler evaluate session handler := by
  induction handler generalizing session with
  | done result => rfl
  | ask request resume ih =>
      rw [runHandler, runHandler, map_bind]
      refine (congrArg (· >>= _) (reply_guard nested session request)).trans ?_
      rw [bind_map_left]
      refine bind_congr fun outcome => ?_
      obtain ⟨changed, failure | answer⟩ := outcome
      · rfl
      · exact ih answer changed

/-- The handler of an invocation that was read is the guarded one. -/
theorem handler_guard (substitute : Substitute) {invocation : Invocation}
    (reads : session.read line = .ok (some invocation)) :
    (invocation.command.guard substitute).handler (invocation.owner.guard substitute).info
        invocation.bundle =
      invocation.command.handler invocation.owner.info invocation.bundle := by
  obtain ⟨_, _, -, -, -, obeyed⟩ := read_eq_ok_some_iff.1 reads
  have holds : invocation.command.rules.all (Rule.holds invocation.bundle) = true :=
    List.all_eq_true.2 (checkRules_eq_ok_iff.1 obeyed)
  rw [info_guard]
  exact if_pos holds

/-- Other handlers for bundles that break the rules make no difference to an evaluation.
The induction is on the levels of calls that are left. -/
theorem evaluate_guard (levels : Nat) (line : String) (session : Session) :
    Session.evaluate levels line (session.guard substitute) =
      guardOutcome substitute <$> Session.evaluate levels line session := by
  induction levels generalizing line session with
  | zero => rfl
  | succ levels ih =>
      simp only [Session.evaluate, read_guard, map_bind]
      refine bind_congr fun isCancelled => ?_
      cases isCancelled with
      | true => rfl
      | false =>
          cases reads : session.read line with
          | error error => rfl
          | ok invocation? =>
              cases invocation? with
              | none => rfl
              | some invocation =>
                  have handlerEq := handler_guard substitute reads
                  simp only [map_ok, Option.map_some, Invocation.guard, handlerEq,
                    runHandler_guard ih, Bool.false_eq_true, if_false, map_bind, bind_map_left]
                  refine bind_congr fun outcome => ?_
                  obtain ⟨changed, failure | value⟩ := outcome <;> rfl

end Evaluations

end Session
end CommandShell
