import CommandShell.Registry
import Mathlib.Logic.Relation
import Mathlib.Tactic.Push

/-!
# Resolving names

A module owns a command if it is loaded and has it.  A bare name resolves if it has one
owner, it is unknown if it has none, and with more owners it is ambiguous between all of
them; a qualified name asks one module.

What a name resolves to changes only as its owners do.  Loading a module adds an owner and
unloading one takes it away, so a name that leads to a command never comes to lead to another
one while the module of that command stays loaded: at worst it becomes ambiguous.
-/

namespace CommandShell
namespace Registry

/-- The registries that loading and unloading modules makes of an empty one. -/
inductive Formed : Registry → Prop
  | empty : Formed ∅
  | add {before after : Registry} {module : Module} (formed : Formed before)
      (added : before.add module = .ok after) : Formed after
  | remove {before after : Registry} {name : String} (formed : Formed before)
      (removed : before.remove name = .ok after) : Formed after

/-- A module is loaded under its own name and has a command of a name. -/
structure Owns (registry : Registry) (module : Module) (name : String) (command : Command) :
    Prop where
  loaded : registry.find? module.name = some module
  has : module.command? name = some command

variable {registry before after : Registry} {module other : Module}
variable {name key : String} {command otherCommand : Command} {target : CommandName}

section Loaded

theorem find?_of_add (added : before.add module = .ok after) (key : String) :
    after.find? key = if key = module.name then some module else before.find? key := by
  unfold add at added
  split at added
  · cases added
  · cases added
    exact NameMap.find?_insert ..

theorem free_of_add (added : before.add module = .ok after) : before.find? module.name = none := by
  unfold add at added
  split at added
  · cases added
  · next free => exact NameMap.contains_eq_false_iff.1 (Bool.eq_false_iff.2 free)

theorem find?_of_remove (removed : before.remove name = .ok after) (key : String) :
    after.find? key = if key = name then none else before.find? key := by
  unfold remove at removed
  split at removed
  · cases removed
    exact NameMap.find?_erase ..
  · cases removed

/-- Every module is loaded under its own name. -/
theorem Formed.name_eq (formed : registry.Formed) (found : registry.find? key = some module) :
    module.name = key := by
  induction formed generalizing key module with
  | empty => cases found
  | add _ added ih =>
      rw [find?_of_add added] at found
      split at found
      · next same =>
          cases found
          exact same.symm
      · exact ih found
  | remove _ removed ih =>
      rw [find?_of_remove removed] at found
      split at found
      · cases found
      · exact ih found

theorem Formed.mem_values_iff (formed : registry.Formed) :
    module ∈ registry.values ↔ registry.find? module.name = some module := by
  constructor
  · intro listed
    obtain ⟨key, found⟩ := NameMap.exists_find?_of_mem_values listed
    rwa [formed.name_eq found]
  · exact NameMap.mem_values_of_find?

theorem Formed.mem_owners_iff (formed : registry.Formed) :
    module ∈ registry.owners name ↔ ∃ command, Owns registry module name command := by
  rw [owners, List.mem_filter, formed.mem_values_iff, Module.hasCommand, NameMap.contains,
    Option.isSome_iff_exists]
  constructor
  · rintro ⟨loaded, command, has⟩
    exact ⟨command, loaded, has⟩
  · rintro ⟨command, owns⟩
    exact ⟨owns.loaded, command, owns.has⟩

/-- The owners are listed in ascending name order. -/
theorem Formed.ascending_owners (formed : registry.Formed) (name : String) :
    ((registry.owners name).map (·.name)).Pairwise (· < ·) := by
  have named : registry.values.map (·.name) = registry.names := by
    rw [NameMap.values, NameMap.names, List.map_map]
    apply List.map_congr_left
    intro entry listed
    exact formed.name_eq (NameMap.mem_toList_iff.1 listed)
  have ascending : (registry.values.map (·.name)).Pairwise (· < ·) := by
    rw [named]
    exact List.pairwise_map.2 registry.ascending
  exact ascending.sublist (List.filter_sublist.map _)

end Loaded

section Counting

/-- What a bare name resolves to, by its owners. -/
inductive ByOwners (registry : Registry) (name : String) :
    Except ShellError (Module × Command) → Prop
  | none (unowned : ∀ module command, ¬ Owns registry module name command) :
      ByOwners registry name (.error (.noSuchCommand name))
  | one {module : Module} {command : Command} (owns : Owns registry module name command)
      (only : ∀ other otherCommand, Owns registry other name otherCommand → other = module) :
      ByOwners registry name (.ok (module, command))
  | several {first second : Module} {firstCommand secondCommand : Command} {modules : List String}
      (firstOwns : Owns registry first name firstCommand)
      (secondOwns : Owns registry second name secondCommand) (different : first ≠ second)
      (ascending : modules.Pairwise (· < ·))
      (listed : ∀ owner, owner ∈ modules ↔
        ∃ module command, module.name = owner ∧ Owns registry module name command) :
      ByOwners registry name (.error (.ambiguousCommand name modules))

theorem Formed.mem_map_owners_iff (formed : registry.Formed) {owner : String} :
    owner ∈ (registry.owners name).map (·.name) ↔
      ∃ module command, module.name = owner ∧ Owns registry module name command := by
  rw [List.mem_map]
  constructor
  · rintro ⟨module, member, rfl⟩
    obtain ⟨command, owns⟩ := formed.mem_owners_iff.1 member
    exact ⟨module, command, rfl, owns⟩
  · rintro ⟨module, command, rfl, owns⟩
    exact ⟨module, formed.mem_owners_iff.2 ⟨command, owns⟩, rfl⟩

theorem Formed.byOwners (formed : registry.Formed) (name : String) :
    ByOwners registry name (registry.resolve (.bare name)) := by
  have member_of_owns {module : Module} {command : Command}
      (owns : Owns registry module name command) : module ∈ registry.owners name :=
    formed.mem_owners_iff.2 ⟨command, owns⟩
  rcases ownersEq : registry.owners name with _ | ⟨first, _ | ⟨second, others⟩⟩
  · rw [resolve, ownersEq]
    apply ByOwners.none
    intro module command owns
    have member := member_of_owns owns
    rw [ownersEq] at member
    cases member
  · obtain ⟨command, owns⟩ := formed.mem_owners_iff.1 (show first ∈ _ by rw [ownersEq]; simp)
    rw [resolve, ownersEq]
    simp only [owns.has]
    apply ByOwners.one owns
    intro other otherCommand otherOwns
    have member := member_of_owns otherOwns
    rwa [ownersEq, List.mem_singleton] at member
  · obtain ⟨_, firstOwns⟩ := formed.mem_owners_iff.1 (show first ∈ _ by rw [ownersEq]; simp)
    obtain ⟨_, secondOwns⟩ := formed.mem_owners_iff.1 (show second ∈ _ by rw [ownersEq]; simp)
    have ascending := formed.ascending_owners name
    have different : first ≠ second := by
      intro same
      rw [ownersEq, List.map_cons, List.map_cons, List.pairwise_cons] at ascending
      exact String.lt_irrefl _ (same ▸ ascending.1 second.name List.mem_cons_self)
    have resolved : registry.resolve (.bare name) =
        .error (.ambiguousCommand name ((registry.owners name).map (·.name))) := by
      rw [resolve, ownersEq]
    rw [resolved]
    exact .several firstOwns secondOwns different ascending fun _ => formed.mem_map_owners_iff

/-- A bare name is resolved by counting the owners of the command. -/
structure CountsOwners (registry : Registry) (name : String) : Prop where
  one : ∀ module command, registry.resolve (.bare name) = .ok (module, command) ↔
    Owns registry module name command ∧
      ∀ other otherCommand, Owns registry other name otherCommand → other = module
  none : registry.resolve (.bare name) = .error (.noSuchCommand name) ↔
    ∀ module command, ¬ Owns registry module name command
  several : (∃ modules, registry.resolve (.bare name) = .error (.ambiguousCommand name modules)) ↔
    ∃ first firstCommand second secondCommand, Owns registry first name firstCommand ∧
      Owns registry second name secondCommand ∧ first ≠ second
  /-- All owners are listed, and nothing else is. -/
  listed : ∀ modules, registry.resolve (.bare name) = .error (.ambiguousCommand name modules) →
    modules.Pairwise (· < ·) ∧ ∀ owner, owner ∈ modules ↔
      ∃ module command, module.name = owner ∧ Owns registry module name command

theorem Formed.countsOwners (formed : registry.Formed) (name : String) :
    CountsOwners registry name := by
  have byOwners := formed.byOwners name
  generalize resolvedEq : registry.resolve (.bare name) = resolved at byOwners
  cases byOwners with
  | none unowned =>
      constructor <;> simp [resolvedEq, unowned]
  | @one owner command owns only =>
      constructor
      · intro module otherCommand
        rw [resolvedEq]
        constructor
        · rintro ⟨⟩
          exact ⟨owns, only⟩
        · rintro ⟨otherOwns, -⟩
          obtain rfl := only module otherCommand otherOwns
          rw [Option.some.inj (owns.has.symm.trans otherOwns.has)]
      · rw [resolvedEq]
        exact iff_of_false nofun fun unowned => unowned owner command owns
      · rw [resolvedEq]
        refine iff_of_false nofun ?_
        rintro ⟨first, _, second, _, firstOwns, secondOwns, different⟩
        exact different ((only first _ firstOwns).trans (only second _ secondOwns).symm)
      · simp [resolvedEq]
  | several firstOwns secondOwns different ascending listed =>
      constructor
      · intro module command
        rw [resolvedEq]
        refine iff_of_false nofun ?_
        rintro ⟨-, only⟩
        exact different ((only _ _ firstOwns).trans (only _ _ secondOwns).symm)
      · rw [resolvedEq]
        exact iff_of_false nofun fun unowned => unowned _ _ firstOwns
      · exact iff_of_true ⟨_, resolvedEq⟩ ⟨_, _, _, _, firstOwns, secondOwns, different⟩
      · intro modules ambiguous
        cases resolvedEq.symm.trans ambiguous
        exact ⟨ascending, listed⟩

end Counting

section Asking

/-- What a qualified name resolves to: the module is asked, if it is loaded. -/
structure AsksModule (registry : Registry) (owner name : String) : Prop where
  found : ∀ module command, registry.resolve (.qualified owner name) = .ok (module, command) ↔
    registry.find? owner = some module ∧ module.command? name = some command
  noModule : registry.resolve (.qualified owner name) = .error (.noSuchModule owner) ↔
    registry.find? owner = none
  noCommand : registry.resolve (.qualified owner name) =
      .error (.noSuchCommand (owner ++ "." ++ name)) ↔
    ∃ module, registry.find? owner = some module ∧ module.command? name = none

theorem asksModule (registry : Registry) (owner name : String) :
    AsksModule registry owner name := by
  cases loaded : registry.find? owner with
  | none =>
      have resolvedEq : registry.resolve (.qualified owner name) =
          .error (.noSuchModule owner) := by
        simp only [resolve, loaded]
      constructor <;> simp [resolvedEq, loaded]
  | some module =>
      cases has : module.command? name with
      | none =>
          have resolvedEq : registry.resolve (.qualified owner name) =
              .error (.noSuchCommand (owner ++ "." ++ name)) := by
            simp only [resolve, loaded, has]
            rfl
          constructor <;> simp [resolvedEq, loaded, has]
          rintro other command rfl lacks
          cases has.symm.trans lacks
      | some command =>
          have resolvedEq : registry.resolve (.qualified owner name) = .ok (module, command) := by
            simp only [resolve, loaded, has]
          constructor <;> simp [resolvedEq, loaded, has]
          rintro other otherCommand rfl
          rw [has, Option.some.injEq]

/-- A command that is found is one of a module that is loaded. -/
theorem exists_loaded_of_resolve {target : CommandName} {owner : Module} {command : Command}
    (resolved : registry.resolve target = .ok (owner, command)) :
    (∃ key, registry.find? key = some owner) ∧ ∃ name, owner.command? name = some command := by
  cases target with
  | qualified key name =>
      rw [resolve] at resolved
      split at resolved
      · cases resolved
      · next loaded found =>
          split at resolved
          · cases resolved
          · next has =>
              cases resolved
              exact ⟨⟨key, found⟩, name, has⟩
  | bare name =>
      rw [resolve] at resolved
      split at resolved
      · cases resolved
      · next only isOnly =>
          split at resolved
          · cases resolved
          · next has =>
              cases resolved
              have isOwner : owner ∈ registry.owners name := isOnly ▸ List.mem_singleton_self owner
              have listed : owner ∈ registry.values := (List.mem_filter.1 isOwner).1
              exact ⟨NameMap.exists_find?_of_mem_values listed, name, has⟩
      · cases resolved

end Asking

section Changing

theorem owns_of_add_iff (added : before.add module = .ok after) :
    Owns after other name command ↔
      Owns before other name command ∨ other = module ∧ module.command? name = some command := by
  have free := free_of_add added
  constructor
  · rintro ⟨loaded, has⟩
    rw [find?_of_add added] at loaded
    split at loaded
    · cases loaded
      exact .inr ⟨rfl, has⟩
    · exact .inl ⟨loaded, has⟩
  · rintro (⟨loaded, has⟩ | ⟨rfl, has⟩)
    · have different : other.name ≠ module.name := by
        intro same
        rw [same, free] at loaded
        cases loaded
      exact ⟨by rw [find?_of_add added, if_neg different, loaded], has⟩
    · exact ⟨by rw [find?_of_add added, if_pos rfl], has⟩

theorem owns_of_remove_iff (removed : before.remove key = .ok after) :
    Owns after other name command ↔ Owns before other name command ∧ other.name ≠ key := by
  constructor
  · rintro ⟨loaded, has⟩
    rw [find?_of_remove removed] at loaded
    split at loaded
    · cases loaded
    · next different => exact ⟨⟨loaded, has⟩, different⟩
  · rintro ⟨⟨loaded, has⟩, different⟩
    exact ⟨by rw [find?_of_remove removed, if_neg different, loaded], has⟩

/-- A module is loaded, or one of another name than `keep` is unloaded. -/
inductive Turn (keep : String) (before after : Registry) : Prop
  | add {module : Module} (added : before.add module = .ok after)
  | remove {name : String} (removed : before.remove name = .ok after) (other : name ≠ keep)

abbrev Turns (keep : String) : Registry → Registry → Prop := Relation.ReflTransGen (Turn keep)

theorem Formed.turn {keep : String} (formed : before.Formed) (turn : Turn keep before after) :
    after.Formed := by
  cases turn with
  | add added => exact formed.add added
  | remove removed => exact formed.remove removed

theorem Owns.turn (owns : Owns before module name command)
    (turn : Turn module.name before after) : Owns after module name command := by
  cases turn with
  | add added => exact (owns_of_add_iff added).2 (.inl owns)
  | remove removed different => exact (owns_of_remove_iff removed).2 ⟨owns, different.symm⟩

theorem Formed.turns {keep : String} (formed : before.Formed) (turns : Turns keep before after) :
    after.Formed := by
  induction turns with
  | refl => exact formed
  | tail _ turn ih => exact ih.turn turn

theorem Owns.turns (owns : Owns before module name command)
    (turns : Turns module.name before after) : Owns after module name command := by
  induction turns with
  | refl => exact owns
  | tail _ turn ih => exact ih.turn turn

/-- A name leads to a command, unless it is a bare name that is ambiguous between the module
of the command and others. -/
inductive LeadsTo (registry : Registry) (module : Module) (command : Command) :
    CommandName → Prop
  | resolves {target : CommandName} (resolved : registry.resolve target = .ok (module, command)) :
      LeadsTo registry module command target
  | ambiguous {name : String} {modules : List String} (listed : module.name ∈ modules)
      (ambiguous : registry.resolve (.bare name) = .error (.ambiguousCommand name modules)) :
      LeadsTo registry module command (.bare name)

/-- A name of a command that is owned leads to it. -/
theorem Owns.leadsTo_bare (formed : registry.Formed) (owns : Owns registry module name command) :
    LeadsTo registry module command (.bare name) := by
  have counts := formed.countsOwners name
  by_cases only : ∀ other otherCommand, Owns registry other name otherCommand → other = module
  · exact .resolves ((counts.one module command).2 ⟨owns, only⟩)
  · push Not at only
    obtain ⟨other, otherCommand, otherOwns, different⟩ := only
    obtain ⟨modules, ambiguous⟩ :=
      counts.several.2 ⟨other, otherCommand, module, command, otherOwns, owns, different⟩
    have listed := ((counts.listed modules ambiguous).2 module.name).2 ⟨module, command, rfl, owns⟩
    exact .ambiguous listed ambiguous

theorem Owns.resolve_qualified (owns : Owns registry module name command) :
    registry.resolve (.qualified module.name name) = .ok (module, command) :=
  ((asksModule registry module.name name).found module command).2 ⟨owns.loaded, owns.has⟩

/-- How resolution stands up to loading and unloading modules. -/
structure Steadfast (registry : Registry) : Prop where
  addQualified : ∀ module after, registry.add module = .ok after →
    ∀ owner name found, registry.resolve (.qualified owner name) = .ok found →
      after.resolve (.qualified owner name) = .ok found
  /-- A bare name is kept unless the new module has a command of that name too. -/
  addBare : ∀ module after, registry.add module = .ok after →
    ∀ name owner command, registry.resolve (.bare name) = .ok (owner, command) →
      (module.command? name = none → after.resolve (.bare name) = .ok (owner, command)) ∧
      ∀ twin, module.command? name = some twin → ∃ modules, owner.name ∈ modules ∧
        module.name ∈ modules ∧
        after.resolve (.bare name) = .error (.ambiguousCommand name modules)
  remove : ∀ gone after, registry.remove gone = .ok after →
    ∀ target owner command, registry.resolve target = .ok (owner, command) →
      gone ≠ owner.name → after.resolve target = .ok (owner, command)
  /-- As long as the module of a command stays, no name is redirected from it to another. -/
  turns : ∀ target owner command, registry.resolve target = .ok (owner, command) →
    ∀ after, Turns owner.name registry after → LeadsTo after owner command target

theorem Formed.addBare (formed : before.Formed) (added : before.add module = .ok after)
    (resolved : before.resolve (.bare name) = .ok (other, command)) :
    (module.command? name = none → after.resolve (.bare name) = .ok (other, command)) ∧
    ∀ twin, module.command? name = some twin → ∃ modules, other.name ∈ modules ∧
      module.name ∈ modules ∧
      after.resolve (.bare name) = .error (.ambiguousCommand name modules) := by
  obtain ⟨owns, only⟩ := ((formed.countsOwners name).one other command).1 resolved
  have counts := (formed.add added).countsOwners name
  have ownsAfter := (owns_of_add_iff added).2 (.inl owns)
  constructor
  · intro lacks
    refine (counts.one other command).2 ⟨ownsAfter, ?_⟩
    intro third thirdCommand thirdOwns
    rcases (owns_of_add_iff added).1 thirdOwns with ownedBefore | ⟨-, has⟩
    · exact only third thirdCommand ownedBefore
    · cases lacks.symm.trans has
  · intro twin has
    have twinOwns : Owns after module name twin := (owns_of_add_iff added).2 (.inr ⟨rfl, has⟩)
    have different : other ≠ module := by
      rintro rfl
      cases (free_of_add added).symm.trans owns.loaded
    obtain ⟨modules, ambiguous⟩ :=
      counts.several.2 ⟨other, command, module, twin, ownsAfter, twinOwns, different⟩
    have listed := (counts.listed modules ambiguous).2
    exact ⟨modules, (listed other.name).2 ⟨other, command, rfl, ownsAfter⟩,
      (listed module.name).2 ⟨module, twin, rfl, twinOwns⟩, ambiguous⟩

theorem Formed.steadfast (formed : registry.Formed) : Steadfast registry where
  addQualified module after added owner name found resolved := by
    obtain ⟨other, command⟩ := found
    obtain ⟨loaded, has⟩ := ((asksModule registry owner name).found other command).1 resolved
    obtain rfl := formed.name_eq loaded
    have owns : Owns registry other name command := ⟨loaded, has⟩
    exact ((owns_of_add_iff added).2 (.inl owns)).resolve_qualified
  addBare module after added name owner command := formed.addBare added
  remove gone after removed target owner command resolved different := by
    cases target with
    | qualified asked name =>
        obtain ⟨loaded, has⟩ := ((asksModule registry asked name).found owner command).1 resolved
        obtain rfl := formed.name_eq loaded
        have owns : Owns after owner name command :=
          (owns_of_remove_iff removed).2 ⟨⟨loaded, has⟩, different.symm⟩
        exact owns.resolve_qualified
    | bare name =>
        obtain ⟨owns, only⟩ := ((formed.countsOwners name).one owner command).1 resolved
        refine (((formed.remove removed).countsOwners name).one owner command).2 ⟨?_, ?_⟩
        · exact (owns_of_remove_iff removed).2 ⟨owns, different.symm⟩
        · intro other otherCommand otherOwns
          exact only other otherCommand ((owns_of_remove_iff removed).1 otherOwns).1
  turns target owner command resolved after turns := by
    cases target with
    | qualified asked name =>
        obtain ⟨loaded, has⟩ := ((asksModule registry asked name).found owner command).1 resolved
        obtain rfl := formed.name_eq loaded
        have owns : Owns registry owner name command := ⟨loaded, has⟩
        exact .resolves (owns.turns turns).resolve_qualified
    | bare name =>
        obtain ⟨owns, -⟩ := ((formed.countsOwners name).one owner command).1 resolved
        exact (owns.turns turns).leadsTo_bare (formed.turns turns)

end Changing

/-- Resolving a name counts the owners of a command, and loading and unloading modules never
redirects a name. -/
theorem resolves_by_owners (registry : Registry) (formed : registry.Formed) :
    (∀ name, CountsOwners registry name) ∧ (∀ owner name, AsksModule registry owner name) ∧
      Steadfast registry :=
  ⟨formed.countsOwners, asksModule registry, formed.steadfast⟩

def idleCommand (name : String) : Command where
  name := name
  handler _ _ := pure .none

def idleModule (name : String) (commands : List String) : Module where
  name := name
  version := "1"
  color := .plain
  commands := .ofList (commands.map fun command => (command, idleCommand command))

/-- The only module has the command `go`. -/
def alone : Registry := NameMap.insert ∅ "first" (idleModule "first" ["go"])

/-- A second module has a command of that name, too. -/
def joined : Registry := alone.insert "second" (idleModule "second" ["go", "stop"])

/-- The name of the command becomes ambiguous, and with the module in front it is not. -/
theorem resolves_in_joined : alone.Formed ∧
    alone.add (idleModule "second" ["go", "stop"]) = .ok joined ∧
    alone.resolve (.bare "go") = .ok (idleModule "first" ["go"], idleCommand "go") ∧
    joined.resolve (.qualified "first" "go") = .ok (idleModule "first" ["go"], idleCommand "go") ∧
    ∃ modules, "first" ∈ modules ∧ "second" ∈ modules ∧
      joined.resolve (.bare "go") = .error (.ambiguousCommand "go" modules) := by
  have firstAdded : Registry.add ∅ (idleModule "first" ["go"]) = .ok alone := rfl
  have formed : alone.Formed := .add .empty firstAdded
  have added : alone.add (idleModule "second" ["go", "stop"]) = .ok joined := rfl
  have resolved : alone.resolve (.bare "go") =
      .ok (idleModule "first" ["go"], idleCommand "go") := rfl
  have qualified : alone.resolve (.qualified "first" "go") =
      .ok (idleModule "first" ["go"], idleCommand "go") := rfl
  have has : (idleModule "second" ["go", "stop"]).command? "go" = some (idleCommand "go") := rfl
  obtain ⟨-, -, steadfast⟩ := resolves_by_owners alone formed
  exact ⟨formed, added, resolved, steadfast.addQualified _ _ added _ _ _ qualified,
    (steadfast.addBare _ _ added _ _ _ resolved).2 _ has⟩

end Registry
end CommandShell
