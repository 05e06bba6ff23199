import CommandShell.Proofs.Session.Evaluation

/-!
# Loading libraries and modules

A session `Gains` modules if each of them is loaded afterwards under a name that was
free, and nothing else has changed.  Loading the modules of a library one after the
other gains all of them or, if two have the same name, those before the first
repetition.  Every other failure is found before anything is loaded, so a library is
loaded all or nothing unless it has twins.
-/

namespace CommandShell
namespace Session

open CommandShell.NameMap (contains_eq_false_iff)

/-- A session comes to have modules under names that were free, and everything else
stays as it is. -/
structure Gains (before : Session) (modules : List Module) (after : Session) :
    Prop where
  fresh : ∀ module ∈ modules, before.registry.contains module.name = false
  distinct : (modules.map (·.name)).Nodup
  loaded : ∀ module ∈ modules, after.registry.find? module.name = some module
  kept : ∀ name, name ∉ modules.map (·.name) →
    after.registry.find? name = before.registry.find? name
  rest : after = { before with registry := after.registry }

variable {before after extended : Session} {modules rest : List Module}
variable {module : Module} {library name : String}

theorem register_eq_ok_iff :
    before.register module = .ok extended ↔
      before.registry.contains module.name = false ∧
        extended =
          { before with registry := before.registry.insert module.name module } := by
  cases taken : before.registry.contains module.name with
  | true => simp [register, Registry.add, taken, bind, Except.bind]
  | false =>
      simp [register, Registry.add, taken, bind, Except.bind, pure, Except.pure,
        eq_comm]

theorem register_eq_error_iff {error : ShellError} :
    before.register module = .error error ↔
      before.registry.contains module.name = true ∧ error =
        .moduleLoadFailure s!"module {module.name} is already loaded" := by
  cases taken : before.registry.contains module.name with
  | true => simp [register, Registry.add, taken, bind, Except.bind, eq_comm]
  | false =>
      simp [register, Registry.add, taken, bind, Except.bind, pure, Except.pure]

namespace Gains

theorem nil (session : Session) : Gains session [] session where
  fresh := nofun
  distinct := List.nodup_nil
  loaded := nofun
  kept _ _ := rfl
  rest := rfl

/-- The first module is loaded in a session, and the others in what it gives. -/
theorem cons (registered : before.register module = .ok extended)
    (later : Gains extended rest after) : Gains before (module :: rest) after := by
  obtain ⟨free, rfl⟩ := register_eq_ok_iff.1 registered
  have others : NameMap.Includes Module.name (before.registry.insert module.name module)
      rest after.registry := ⟨later.fresh, later.distinct, later.loaded, later.kept⟩
  obtain ⟨fresh, distinct, found, kept⟩ := others.cons free
  exact ⟨fresh, distinct, found, kept, later.rest⟩

theorem macros_eq (gains : Gains before modules after) : after.macros = before.macros := by
  rw [gains.rest]

theorem registry_ne (gains : Gains before modules after) (listed : module ∈ modules) :
    after.registry ≠ before.registry := by
  intro same
  have found := gains.loaded module listed
  rw [same, contains_eq_false_iff.1 (gains.fresh module listed)] at found
  cases found

end Gains

/-- Loading modules one after the other gains all of them, or those before the first
whose name is taken by then. -/
theorem gains_registerAll (before : Session) (modules : List Module) :
    ((before.registerAll modules).2 = .ok (modules.map (·.name)) ∧
      Gains before modules (before.registerAll modules).1) ∨
    ∃ loaded repeated rest, modules = loaded ++ repeated :: rest ∧
      Gains before loaded (before.registerAll modules).1 ∧
      (before.registerAll modules).1.registry.contains repeated.name = true ∧
      (before.registerAll modules).2 = .error
        (.moduleLoadFailure s!"module {repeated.name} is already loaded") := by
  induction modules generalizing before with
  | nil => exact .inl ⟨rfl, .nil before⟩
  | cons module rest ih =>
      unfold registerAll
      cases registered : before.register module with
      | error error =>
          obtain ⟨taken, rfl⟩ := register_eq_error_iff.1 registered
          exact .inr ⟨[], module, rest, rfl, .nil before, taken, rfl⟩
      | ok extended =>
          rcases ih extended with
            ⟨names, gains⟩ | ⟨loaded, repeated, others, rfl, gains, taken, fails⟩
          · refine .inl ⟨?_, gains.cons registered⟩
            dsimp only
            rw [names]
            rfl
          · refine .inr ⟨module :: loaded, repeated, others, rfl,
              gains.cons registered, taken, ?_⟩
            dsimp only
            rw [fails]
            rfl

/-- A library has twins if it could be loaded but for two modules of one name. -/
structure Twins (session : Session) (modules : List Module) : Prop where
  fresh : ∀ module ∈ modules, session.registry.contains module.name = false
  repeats : ¬ (modules.map (·.name)).Nodup

/-- A library is loaded as a whole, or the modules stay as they were. -/
def AllOrNothing (before : Session) (library : String) :
    Session × Except ShellError (List String) → Prop
  | (after, .error _) => after.registry = before.registry
  | (after, .ok names) => ∃ modules,
      before.catalog.instantiate library = .ok modules ∧
        Gains before modules after ∧ names = modules.map (·.name)

/-- The first module of a name is loaded alone, or nothing changes. -/
def OneOrNothing (before : Session) (library name : String) :
    Session × Except ShellError Unit → Prop
  | (after, .error _) => after = before
  | (after, .ok ()) => ∃ modules module,
      before.catalog.instantiate library = .ok modules ∧
        (modules.find? fun module => module.name == name) = some module ∧
        Gains before [module] after

theorem loadLibrary_of_fresh
    (assembled : before.catalog.instantiate library = .ok modules)
    (fresh : ∀ module ∈ modules, before.registry.contains module.name = false) :
    before.loadLibrary library = before.registerAll modules := by
  have noneTaken : (modules.find? fun module =>
      before.registry.contains module.name) = none :=
    List.find?_eq_none.2 fun module member => by simp [fresh module member]
  simp only [loadLibrary, assembled, noneTaken]

theorem loadLibrary_of_not_fresh
    (refused : ¬ ∃ modules, before.catalog.instantiate library = .ok modules ∧
      ∀ module ∈ modules, before.registry.contains module.name = false) :
    ∃ error, before.loadLibrary library = (before, .error error) := by
  cases assembled : before.catalog.instantiate library with
  | error error => exact ⟨error, by simp only [loadLibrary, assembled]⟩
  | ok modules =>
      cases found : modules.find? fun module =>
          before.registry.contains module.name with
      | some taken => exact ⟨_, by simp only [loadLibrary, assembled, found]; rfl⟩
      | none =>
          exact absurd ⟨modules, assembled, fun module member =>
            Bool.eq_false_iff.2 (List.find?_eq_none.1 found module member)⟩ refused

/-- A module that is free at first is taken later only by one of the modules that
were loaded in between. -/
theorem Gains.listed_of_taken (gains : Gains before modules after)
    (free : before.registry.contains module.name = false)
    (taken : after.registry.contains module.name = true) :
    module.name ∈ modules.map (·.name) := by
  refine Decidable.byContradiction fun unlisted => ?_
  rw [contains_eq_false_iff, ← gains.kept _ unlisted,
    ← contains_eq_false_iff, taken] at free
  cases free

/-- What is loaded of a library with twins: the modules before the first whose name
repeats. -/
theorem gains_of_twins
    (assembled : before.catalog.instantiate library = .ok modules)
    (twins : Twins before modules) :
    ∃ loaded repeated rest, modules = loaded ++ repeated :: rest ∧
      repeated.name ∈ loaded.map (·.name) ∧
      Gains before loaded (before.loadLibrary library).1 ∧
      (before.loadLibrary library).2 = .error
        (.moduleLoadFailure s!"module {repeated.name} is already loaded") := by
  rw [loadLibrary_of_fresh assembled twins.fresh]
  rcases gains_registerAll before modules with
    ⟨-, gains⟩ | ⟨loaded, repeated, rest, rfl, gains, taken, fails⟩
  · exact absurd gains.distinct twins.repeats
  · have free := twins.fresh repeated (by simp)
    exact ⟨loaded, repeated, rest, rfl, gains.listed_of_taken free taken, gains,
      fails⟩

theorem not_allOrNothing_of_twins
    (assembled : before.catalog.instantiate library = .ok modules)
    (twins : Twins before modules) :
    ¬ AllOrNothing before library (before.loadLibrary library) := by
  obtain ⟨loaded, repeated, rest, -, listed, gains, fails⟩ :=
    gains_of_twins assembled twins
  obtain ⟨first, member, -⟩ := List.mem_map.1 listed
  rw [← Prod.eta (before.loadLibrary library), fails]
  exact gains.registry_ne member

theorem gains_of_distinct
    (assembled : before.catalog.instantiate library = .ok modules)
    (fresh : ∀ module ∈ modules, before.registry.contains module.name = false)
    (distinct : (modules.map (·.name)).Nodup) :
    Gains before modules (before.loadLibrary library).1 ∧
      (before.loadLibrary library).2 = .ok (modules.map (·.name)) := by
  rw [loadLibrary_of_fresh assembled fresh]
  rcases gains_registerAll before modules with
    ⟨names, gains⟩ | ⟨loaded, repeated, rest, rfl, gains, taken, -⟩
  · exact ⟨gains, names⟩
  · -- a module finds its name taken only if it has a twin before it
    have listed := gains.listed_of_taken (fresh repeated (by simp)) taken
    rw [List.map_append, List.nodup_append] at distinct
    exact absurd rfl (distinct.2.2 _ listed _ (by simp))

theorem allOrNothing_of_not_twins
    (single : ∀ modules, before.catalog.instantiate library = .ok modules →
      ¬ Twins before modules) :
    AllOrNothing before library (before.loadLibrary library) := by
  by_cases fits : ∃ modules, before.catalog.instantiate library = .ok modules ∧
      ∀ module ∈ modules, before.registry.contains module.name = false
  · obtain ⟨modules, assembled, fresh⟩ := fits
    have distinct : (modules.map (·.name)).Nodup :=
      Decidable.byContradiction fun repeats => single modules assembled ⟨fresh, repeats⟩
    obtain ⟨gains, names⟩ := gains_of_distinct assembled fresh distinct
    rw [← Prod.eta (before.loadLibrary library), names]
    exact ⟨modules, assembled, gains, rfl⟩
  · obtain ⟨error, refused⟩ := loadLibrary_of_not_fresh fits
    rw [refused]
    exact rfl

theorem loadLibrary_eq_ok_iff {names : List String} :
    (before.loadLibrary library).2 = .ok names ↔
      ∃ modules, before.catalog.instantiate library = .ok modules ∧
        (∀ module ∈ modules, before.registry.contains module.name = false) ∧
        (modules.map (·.name)).Nodup ∧ modules.map (·.name) = names := by
  constructor
  · intro succeeds
    by_cases fits : ∃ modules, before.catalog.instantiate library = .ok modules ∧
        ∀ module ∈ modules, before.registry.contains module.name = false
    · obtain ⟨modules, assembled, fresh⟩ := fits
      rw [loadLibrary_of_fresh assembled fresh] at succeeds
      rcases gains_registerAll before modules with
        ⟨named, gains⟩ | ⟨_, _, _, _, _, _, fails⟩
      · exact ⟨modules, assembled, fresh, gains.distinct,
          Except.ok.inj (named.symm.trans succeeds)⟩
      · cases fails.symm.trans succeeds
    · obtain ⟨error, refused⟩ := loadLibrary_of_not_fresh fits
      rw [refused] at succeeds
      cases succeeds
  · rintro ⟨modules, assembled, fresh, distinct, rfl⟩
    exact (gains_of_distinct assembled fresh distinct).2

theorem gains_of_loadModule (loaded : before.loadModule library name = .ok after) :
    ∃ modules module, before.catalog.instantiate library = .ok modules ∧
      (modules.find? fun module => module.name == name) = some module ∧
      Gains before [module] after := by
  obtain ⟨modules, assembled, registered⟩ := bind_eq_ok_iff.1 loaded
  cases found : modules.find? fun module => module.name == name with
  | none => simp [found] at registered
  | some module =>
      rw [found] at registered
      exact ⟨modules, module, assembled, found, (Gains.nil after).cons registered⟩

/-- Loading a library is all or nothing exactly if it has no twins.  Of a library
with twins, the modules before the first repetition are loaded although the loading
fails, and nothing but twins, a module that is loaded already and one that cannot be
assembled makes it fail.  Loading a single module, as a handler does, is always one or
nothing. -/
theorem allOrNothing_iff_not_twins (session : Session) (library : String) :
    (AllOrNothing session library (session.loadLibrary library) ↔
      ∀ modules, session.catalog.instantiate library = .ok modules →
        ¬ Twins session modules) ∧
    (∀ modules, session.catalog.instantiate library = .ok modules →
      Twins session modules →
      ∃ loaded repeated rest, modules = loaded ++ repeated :: rest ∧
        repeated.name ∈ loaded.map (·.name) ∧
        Gains session loaded (session.loadLibrary library).1 ∧
        (session.loadLibrary library).2 = .error
          (.moduleLoadFailure s!"module {repeated.name} is already loaded")) ∧
    (∀ names, (session.loadLibrary library).2 = .ok names ↔
      ∃ modules, session.catalog.instantiate library = .ok modules ∧
        (∀ module ∈ modules, session.registry.contains module.name = false) ∧
        (modules.map (·.name)).Nodup ∧ modules.map (·.name) = names) ∧
    ∀ evaluate name, ∃ after result,
      reply evaluate session (.loadModule library name) = .done (after, .ok result) ∧
        OneOrNothing session library name (after, result) := by
  refine ⟨⟨fun whole modules assembled twins => ?_, allOrNothing_of_not_twins⟩,
    fun modules assembled twins => gains_of_twins assembled twins,
    fun names => loadLibrary_eq_ok_iff, fun evaluate name => ?_⟩
  · exact not_allOrNothing_of_twins assembled twins whole
  · cases loaded : session.loadModule library name with
    | error error =>
        refine ⟨session, .error error, ?_, rfl⟩
        rw [reply, loaded]
        rfl
    | ok after =>
        refine ⟨after, .ok (), ?_, gains_of_loadModule loaded⟩
        rw [reply, loaded]
        rfl

/-- A library with two modules of one name. -/
def twinCatalog : Catalog :=
  let twin := Module.build "twin" "1" .plain []
  (∅ : Catalog).insert "twins" [twin, twin]

/-- Loading the library fails in a new session, and yet one of the two modules is
loaded. -/
theorem twins_loaded_in_part : ∃ session,
    Session.new twinCatalog = .ok session ∧
      (session.loadLibrary "twins").2 =
        .error (.moduleLoadFailure "module twin is already loaded") ∧
      session.registry.values.map (·.name) = ["wah"] ∧
      (session.loadLibrary "twins").1.registry.values.map (·.name) =
        ["twin", "wah"] ∧
      ¬ AllOrNothing session "twins" (session.loadLibrary "twins") := by
  refine ⟨_, rfl, rfl, rfl, rfl, not_allOrNothing_of_twins rfl ⟨?_, ?_⟩⟩
  · decide +kernel
  · decide +kernel

end Session
end CommandShell
