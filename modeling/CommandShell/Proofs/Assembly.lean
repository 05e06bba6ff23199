import CommandShell.Registry
import Mathlib.Data.List.Induction
import Mathlib.Data.List.Nodup

/-!
# Assembled modules

A module can only be had by assembling it.  Assembling checks every name, keeps each
command under its own, and never lets a command take the place of another, so a module
that has been assembled is well-formed and has the commands that every module has.
`assembles_exactly` says when assembling succeeds, which flaw is reported if it does not,
and what the module then has.
-/

namespace CommandShell
namespace Module

/-- Every name in a module is valid, its commands are found under their own names, and
the commands that every module has are among them. -/
structure WellFormed (module : Module) : Prop where
  validName : isValidName module.name = true
  named : ∀ name command, module.command? name = some command →
    command.name = name ∧ isValidName name = true
  implicit : ∀ command ∈ implicitCommands, module.command? command.name = some command

/-- A module comes from assembling commands. -/
def Assembled (module : Module) : Prop :=
  ∃ name version color commands, build name version color commands = .ok module

variable {before after : NameMap Command} {commands : List Command}
variable {module name : String}

/-- Adding commands succeeds only if each has a valid name of its own. -/
theorem includes_of_addCommands (added : addCommands module before commands = .ok after) :
    (∀ command ∈ commands, isValidName command.name = true) ∧
      before.Includes (fun command => command.name) commands after := by
  induction commands generalizing before with
  | nil =>
      cases added
      exact ⟨nofun, .nil _ _⟩
  | cons command commands ih =>
      rw [addCommands] at added
      split at added
      · cases added
      · next valid =>
          split at added
          · cases added
          · next free =>
              obtain ⟨othersValid, includes⟩ := ih added
              exact ⟨List.forall_mem_cons.2 ⟨by simpa using valid, othersValid⟩,
                includes.cons (Bool.eq_false_iff.2 free)⟩

variable {version : String} {color : Color} {built : Module}

theorem includes_of_build (assembled : build name version color commands = .ok built) :
    built.name = name ∧ isValidName name = true ∧
      (∀ command ∈ implicitCommands ++ commands, isValidName command.name = true) ∧
      NameMap.Includes (fun command => command.name) ∅ (implicitCommands ++ commands)
        built.commands := by
  unfold build at assembled
  split at assembled
  · cases assembled
  · next validName =>
      obtain ⟨table, added, ⟨⟩⟩ := bind_eq_ok_iff.1 assembled
      exact ⟨rfl, by simpa using validName, includes_of_addCommands added⟩

/-- A module that has been assembled has no other commands than those it was assembled of. -/
theorem mem_of_build {key : String} {command : Command}
    (assembled : build name version color commands = .ok built)
    (found : built.command? key = some command) :
    (command ∈ implicitCommands ∨ command ∈ commands) ∧ command.name = key := by
  obtain ⟨-, -, -, includes⟩ := includes_of_build assembled
  obtain ⟨member, named⟩ := (includes.find?_eq_some_iff key command).1 found
  exact ⟨List.mem_append.1 member, named⟩

theorem wellFormed_of_build (assembled : build name version color commands = .ok built) :
    built.WellFormed ∧ ∀ command ∈ commands, built.command? command.name = some command := by
  obtain ⟨nameEq, validName, valid, includes⟩ := includes_of_build assembled
  refine ⟨⟨nameEq ▸ validName, fun key command found => ?_, fun command member =>
    includes.found command (List.mem_append_left _ member)⟩, fun command member =>
    includes.found command (List.mem_append_right _ member)⟩
  obtain ⟨member, named⟩ := mem_of_build assembled found
  exact ⟨named, named ▸ valid command (List.mem_append.2 member)⟩

theorem Assembled.wellFormed {built : Module} (assembled : built.Assembled) :
    built.WellFormed := by
  obtain ⟨_, _, _, _, assembled⟩ := assembled
  exact (wellFormed_of_build assembled).1

/-- Commands that can be in one module: every name is valid, and no two are the same. -/
structure Compatible (commands : List Command) : Prop where
  valid : ∀ command ∈ commands, isValidName command.name = true
  distinct : (commands.map (·.name)).Nodup

/-- What is wrong with a command that comes after others, and the error that says so. -/
inductive Flawed (module : String) (earlier : List Command) (command : Command) :
    ShellError → Prop
  | invalid (invalid : isValidName command.name = false) :
      Flawed module earlier command (.invalidCommandName command.name)
  | repeats (valid : isValidName command.name = true)
      (taken : command.name ∈ earlier.map (·.name)) :
      Flawed module earlier command (.duplicateCommand module command.name)

/-- The error of the first of several commands with which something is wrong. -/
def FirstFlaw (module : String) (commands : List Command) (error : ShellError) : Prop :=
  ∃ front command rest, commands = front ++ command :: rest ∧ Compatible front ∧
    Flawed module front command error

/-- A module has exactly these commands, each is found by its own name and by no other, and they
are listed in ascending name order. -/
structure Holds (module : Module) (commands : List Command) : Prop where
  listed : module.commands.values.Perm commands
  found : ∀ key command, module.command? key = some command ↔
    command ∈ commands ∧ command.name = key
  present : ∀ key, module.hasCommand key = true ↔ key ∈ commands.map (·.name)
  ascending : (module.commands.values.map (·.name)).Pairwise (· < ·)

section Flaws

variable {front : List Command} {command : Command} {error : ShellError}

/-- Compatible commands with free names are all added before it is the turn of others. -/
theorem exists_addCommands_append (compatible : Compatible front)
    (free : ∀ command ∈ front, before.contains command.name = false) :
    ∃ after, before.Includes (fun command => command.name) front after ∧
      ∀ rest, addCommands module before (front ++ rest) = addCommands module after rest := by
  induction front generalizing before with
  | nil => exact ⟨before, .nil _ _, fun _ => rfl⟩
  | cons command front ih =>
      obtain ⟨isValid, valid⟩ := List.forall_mem_cons.1 compatible.valid
      obtain ⟨unlisted, distinct⟩ := List.nodup_cons.1 compatible.distinct
      obtain ⟨isFree, free⟩ := List.forall_mem_cons.1 free
      have stillFree : ∀ other ∈ front,
          (before.insert command.name command).contains other.name = false := by
        intro other listed
        have different : other.name ≠ command.name := fun same =>
          unlisted (List.mem_map.2 ⟨other, listed, same⟩)
        rw [NameMap.contains, NameMap.find?_insert, if_neg different]
        exact free other listed
      obtain ⟨after, includes, added⟩ := ih ⟨valid, distinct⟩ stillFree
      refine ⟨after, includes.cons isFree, fun rest => ?_⟩
      rw [List.cons_append, addCommands]
      simp only [isValid, isFree]
      exact added rest

theorem exists_addCommands_iff :
    (∃ after, addCommands module ∅ commands = .ok after) ↔ Compatible commands := by
  constructor
  · rintro ⟨after, added⟩
    obtain ⟨valid, includes⟩ := includes_of_addCommands added
    exact ⟨valid, includes.distinct⟩
  · intro compatible
    obtain ⟨after, -, added⟩ := exists_addCommands_append compatible fun command _ =>
      NameMap.contains_empty command.name
    exact ⟨after, List.append_nil commands ▸ added []⟩

theorem addCommands_of_firstFlaw (flaw : FirstFlaw module commands error) :
    addCommands module ∅ commands = .error error := by
  obtain ⟨front, command, rest, rfl, compatible, flawed⟩ := flaw
  obtain ⟨after, includes, added⟩ := exists_addCommands_append compatible fun command _ =>
    NameMap.contains_empty command.name
  rw [added, addCommands]
  cases flawed with
  | invalid invalid => simp [invalid]
  | repeats valid taken =>
      have isTaken : after.contains command.name = true := (includes.contains_iff _).2 (.inr taken)
      simp [valid, isTaken]

theorem compatible_append_singleton (compatible : Compatible front)
    (sound : ∀ error, ¬ Flawed module front command error) : Compatible (front ++ [command]) := by
  have valid : isValidName command.name = true := by
    cases isValid : isValidName command.name with
    | true => rfl
    | false => exact absurd (.invalid isValid) (sound _)
  have unlisted : command.name ∉ front.map (·.name) := fun taken =>
    sound _ (.repeats valid taken)
  constructor
  · exact List.forall_mem_append.2 ⟨compatible.valid, List.forall_mem_singleton.2 valid⟩
  · rw [List.map_append, List.nodup_append]
    refine ⟨compatible.distinct, List.nodup_singleton _, fun key listed other single => ?_⟩
    obtain rfl := List.mem_singleton.1 single
    rintro rfl
    exact unlisted listed

/-- Commands are compatible unless something is wrong with one of them. -/
theorem compatible_or_firstFlaw (module : String) (commands : List Command) :
    Compatible commands ∨ ∃ error, FirstFlaw module commands error := by
  -- from the front, so that a flaw of the last command is the first only if there is none before
  induction commands using List.reverseRecOn with
  | nil => exact .inl ⟨nofun, List.nodup_nil⟩
  | append_singleton front command ih =>
      rcases ih with compatible | ⟨error, earlier, flawed, between, rfl, compatible, flaw⟩
      · by_cases flaw : ∃ error, Flawed module front command error
        · obtain ⟨error, flaw⟩ := flaw
          exact .inr ⟨error, front, command, [], rfl, compatible, flaw⟩
        · exact .inl (compatible_append_singleton compatible (not_exists.1 flaw))
      · exact .inr ⟨error, earlier, flawed, between ++ [command], by simp, compatible, flaw⟩

theorem addCommands_eq_error_iff :
    addCommands module ∅ commands = .error error ↔ FirstFlaw module commands error := by
  refine ⟨fun fails => ?_, addCommands_of_firstFlaw⟩
  rcases compatible_or_firstFlaw module commands with compatible | ⟨other, flaw⟩
  · obtain ⟨after, added⟩ := exists_addCommands_iff.2 compatible
    cases fails.symm.trans added
  · cases fails.symm.trans (addCommands_of_firstFlaw flaw)
    exact flaw

theorem exists_build_iff : (∃ module, build name version color commands = .ok module) ↔
    isValidName name = true ∧ Compatible (implicitCommands ++ commands) := by
  rw [build, ← exists_addCommands_iff]
  cases isValidName name with
  | false => simp
  | true =>
      cases addCommands name ∅ (implicitCommands ++ commands) with
      | error other => simp [bind, Except.bind]
      | ok after => simp [bind, Except.bind, pure, Except.pure]

theorem build_eq_error_iff : build name version color commands = .error error ↔
    isValidName name = false ∧ error = .invalidCommandName name ∨
      isValidName name = true ∧ FirstFlaw name (implicitCommands ++ commands) error := by
  rw [build, ← addCommands_eq_error_iff]
  cases isValidName name with
  | false => simp [eq_comm]
  | true =>
      cases addCommands name ∅ (implicitCommands ++ commands) with
      | error other => simp [bind, Except.bind]
      | ok after => simp [bind, Except.bind, pure, Except.pure]

end Flaws

theorem parts_of_build (assembled : build name version color commands = .ok built) :
    built.name = name ∧ built.version = version ∧ built.color = color := by
  unfold build at assembled
  split at assembled
  · cases assembled
  · obtain ⟨table, -, ⟨⟩⟩ := bind_eq_ok_iff.1 assembled
    exact ⟨rfl, rfl, rfl⟩

theorem holds_of_build (assembled : build name version color commands = .ok built) :
    Holds built (implicitCommands ++ commands) := by
  obtain ⟨-, -, -, includes⟩ := includes_of_build assembled
  have found := includes.find?_eq_some_iff
  have names : built.commands.values.map (·.name) = built.commands.toList.map (·.1) := by
    rw [NameMap.values, List.map_map]
    refine List.map_congr_left fun entry listed => ?_
    exact ((found entry.1 entry.2).1 (NameMap.mem_toList_iff.1 listed)).2
  have ascending : (built.commands.values.map (·.name)).Pairwise (· < ·) := by
    rw [names]
    exact List.pairwise_map.2 built.commands.ascending
  constructor
  · have distinct : (built.commands.values.map (·.name)).Nodup :=
      ascending.imp fun below => String.ne_of_lt below
    refine (List.perm_ext_iff_of_nodup distinct.of_map includes.distinct.of_map).2 fun command => ?_
    constructor
    · intro listed
      obtain ⟨key, isFound⟩ := NameMap.exists_find?_of_mem_values listed
      exact ((found key command).1 isFound).1
    · intro member
      exact NameMap.mem_values_of_find? ((found _ command).2 ⟨member, rfl⟩)
  · exact found
  · intro key
    rw [hasCommand, includes.contains_iff, NameMap.contains_empty]
    simp
  · exact ascending

/-- Assembling succeeds exactly if the name of the module is valid and all commands, those that
every module has before the others, are compatible; otherwise it fails with the first flaw. -/
theorem assembles_exactly (name version : String) (color : Color) (commands : List Command) :
    (implicitCommands ++ commands).map (·.name) =
        "version" :: "cmdlist" :: "help" :: commands.map (·.name) ∧
      ((∃ module, build name version color commands = .ok module) ↔
        isValidName name = true ∧ Compatible (implicitCommands ++ commands)) ∧
      (∀ error, build name version color commands = .error error ↔
        isValidName name = false ∧ error = .invalidCommandName name ∨
          isValidName name = true ∧ FirstFlaw name (implicitCommands ++ commands) error) ∧
      ∀ module, build name version color commands = .ok module →
        module.name = name ∧ module.version = version ∧ module.color = color ∧
          Holds module (implicitCommands ++ commands) := by
  refine ⟨rfl, exists_build_iff, fun error => build_eq_error_iff, fun module assembled => ?_⟩
  obtain ⟨nameEq, versionEq, colorEq⟩ := parts_of_build assembled
  exact ⟨nameEq, versionEq, colorEq, holds_of_build assembled⟩

/-- A command that does nothing. -/
def idle (name : String) : Command where
  name
  handler _ _ := pure .none

/-- A second `help` is reported although an invalid name comes after it, and commands are listed
in the order of their names, not in that in which they were given. -/
theorem assembles_idle_commands :
    build "m" "1" .plain [idle "b", idle "help", idle "a b"] =
        .error (.duplicateCommand "m" "help") ∧
      ∃ module, build "m" "1" .plain [idle "b", idle "a"] = .ok module ∧
        Holds module (implicitCommands ++ [idle "b", idle "a"]) := by
  obtain ⟨-, -, fails, -⟩ := assembles_exactly "m" "1" .plain [idle "b", idle "help", idle "a b"]
  obtain ⟨-, succeeds, -, yields⟩ := assembles_exactly "m" "1" .plain [idle "b", idle "a"]
  obtain ⟨module, assembled⟩ := succeeds.2 ⟨by decide, by decide, by decide⟩
  refine ⟨(fails _).2 (.inr ⟨by decide, implicitCommands ++ [idle "b"], idle "help", [idle "a b"],
    rfl, ⟨by decide, by decide⟩, .repeats (by decide) (by decide)⟩), module, assembled, ?_⟩
  exact (yields module assembled).2.2.2

end Module

namespace Catalog

/-- The modules of every library have been assembled. -/
def Assembled (catalog : Catalog) : Prop :=
  ∀ library modules, catalog.find? library = some modules →
    ∀ module, .ok module ∈ modules → module.Assembled

theorem exists_of_mem_mapM {ε α β : Type} {f : α → Except ε β} {values : List α}
    {results : List β} {result : β} (mapped : values.mapM f = .ok results)
    (listed : result ∈ results) : ∃ value ∈ values, f value = .ok result := by
  induction values generalizing results with
  | nil =>
      cases mapped
      cases listed
  | cons value values ih =>
      rw [List.mapM_cons] at mapped
      obtain ⟨first, firstEq, mapped⟩ := bind_eq_ok_iff.1 mapped
      obtain ⟨rest, restEq, ⟨⟩⟩ := bind_eq_ok_iff.1 mapped
      rcases List.mem_cons.1 listed with rfl | listed
      · exact ⟨value, by simp, firstEq⟩
      · obtain ⟨other, member, otherEq⟩ := ih restEq listed
        exact ⟨other, List.mem_cons_of_mem _ member, otherEq⟩

theorem Assembled.of_instantiate {catalog : Catalog} {library : String}
    {modules : List Module} {module : Module} (assembled : catalog.Assembled)
    (instantiated : catalog.instantiate library = .ok modules)
    (listed : module ∈ modules) : module.Assembled := by
  unfold instantiate at instantiated
  split at instantiated
  · cases instantiated
  · next results found =>
      obtain ⟨result, member, resultEq⟩ := exists_of_mem_mapM instantiated listed
      cases result with
      | error error => cases resultEq
      | ok built =>
          cases resultEq
          exact assembled library results found module member

end Catalog

end CommandShell
