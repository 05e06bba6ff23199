import CommandShell.Builtin.Library
import CommandShell.Proofs.Assembly
import CommandShell.Proofs.Session.Replies

/-!
# Commands that their rules protect

The rules of a command say which arguments are there and of which kinds they are, and the handler
relies on that when it accesses them.
-/

namespace CommandShell

open Session (checkRules_eq_ok_iff)
open ShellError (Harmless)

namespace Bundle

variable {bundle : Bundle} {name : String} {kind : Kind} {α : Type}

theorem hasArgument_eq (bundle : Bundle) (name : String) :
    bundle.hasArgument name = (bundle.get? name).isSome := by
  rw [hasArgument, get?, Option.isSome_map, List.isSome_find?]

theorem exists_argument (present : bundle.hasArgument name = true) :
    ∃ value, bundle.argument name = .ok value ∧ bundle.get? name = some value := by
  rw [hasArgument_eq, Option.isSome_iff_exists] at present
  obtain ⟨value, found⟩ := present
  exact ⟨value, by rw [argument, found], found⟩

theorem exists_access {access : Value → Except ShellError α}
    (total : ∀ value : Value, value.kind = kind → ∃ content, access value = .ok content)
    (present : bundle.hasArgument name = true)
    (typed : (Rule.typeOf kind name).holds bundle = true) :
    ∃ content, (bundle.argument name >>= access) = .ok content := by
  obtain ⟨value, argument, found⟩ := exists_argument present
  rw [Rule.holds, found] at typed
  obtain ⟨content, accessed⟩ := total value (eq_of_beq typed)
  exact ⟨content, bind_eq_ok_iff.2 ⟨value, argument, accessed⟩⟩

theorem exists_text (present : bundle.hasArgument name = true)
    (typed : (Rule.typeOf .text name).holds bundle = true) :
    ∃ content, bundle.text name = .ok content := by
  refine exists_access (fun value isText => ?_) present typed
  cases value with
  | text content color => exact ⟨content, rfl⟩
  | none | integer | image | list => cases isText

theorem exists_integer (present : bundle.hasArgument name = true)
    (typed : (Rule.typeOf .integer name).holds bundle = true) :
    ∃ number, bundle.integer name = .ok number := by
  refine exists_access (fun value isInteger => ?_) present typed
  cases value with
  | integer number => exact ⟨number, rfl⟩
  | none | text | image | list => cases isInteger

end Bundle

/-- With a bundle that obeys its rules, a command ends without an access error and yields what it
has promised. -/
def Command.Guarded (command : Command) : Prop :=
  ∀ info bundle, checkRules command.rules bundle = .ok () →
    Handler.Careful (fun value => command.allows value = true) (command.handler info bundle)

open Handler (Careful)

section Required

variable {rules : List Rule} {bundle : Bundle} {name : String} {β : Type} {last : β → Prop}

theorem Handler.Careful.requiredArgument {next : Value → Handler β}
    (obeyed : checkRules rules bundle = .ok ()) (required : .require name ∈ rules)
    (later : ∀ value, Careful last (next value)) :
    Careful last (Handler.ofExcept (bundle.argument name) >>= next) := by
  obtain ⟨value, found, -⟩ :=
    Bundle.exists_argument (checkRules_eq_ok_iff.1 obeyed (.require name) required)
  exact (Careful.access found).bind fun value _ => later value

theorem Handler.Careful.requiredText {next : String → Handler β}
    (obeyed : checkRules rules bundle = .ok ()) (required : .require name ∈ rules)
    (typed : .typeOf .text name ∈ rules) (later : ∀ content, Careful last (next content)) :
    Careful last (Handler.ofExcept (bundle.text name) >>= next) := by
  have holds := checkRules_eq_ok_iff.1 obeyed
  obtain ⟨content, found⟩ := Bundle.exists_text (holds _ required) (holds _ typed)
  exact (Careful.access found).bind fun content _ => later content

end Required

namespace Builtin

theorem guarded_echoCommand : echoCommand.Guarded :=
  fun _ _ obeyed => Careful.requiredArgument obeyed (by simp [echoCommand]) fun _ => .pure rfl

theorem guarded_countCommand : countCommand.Guarded := by
  intro info bundle obeyed
  exact Careful.requiredText obeyed (by simp [countCommand]) (by simp [countCommand])
    fun _ => .pure rfl

theorem careful_selectLines (selects : String → Bool) (lines : List String) :
    Careful (fun _ => True) (selectLines selects lines) := by
  induction lines with
  | nil => exact .pure trivial
  | cons line lines ih =>
      rw [selectLines]
      refine (Careful.request .checkpoint fun _ => id).bind fun _ _ => ?_
      exact ih.bind fun _ _ => .pure trivial

theorem guarded_selectCommand (engine : Regex.Engine) : (selectCommand engine).Guarded := by
  intro info bundle obeyed
  refine Careful.requiredText obeyed (by simp [selectCommand]) (by simp [selectCommand])
    fun typed => ?_
  generalize (if bundle.hasFlag "w" = true then wholeWords typed else typed) = sought
  dsimp only
  split
  · exact .fail rfl
  · next expression _ =>
      refine Careful.requiredText obeyed (by simp [selectCommand]) (by simp [selectCommand])
        fun content => ?_
      exact (careful_selectLines _ _).bind fun _ _ => .pure rfl

theorem guarded_uppercaseCommand : uppercaseCommand.Guarded := by
  intro info bundle obeyed
  exact Careful.requiredText obeyed (by simp [uppercaseCommand]) (by simp [uppercaseCommand])
    fun _ => .pure rfl

theorem guarded_concatCommand : concatCommand.Guarded := by
  intro info bundle obeyed
  refine Careful.requiredText obeyed (by simp [concatCommand]) (by simp [concatCommand])
    fun middle => ?_
  have rules := checkRules_eq_ok_iff.1 obeyed
  split
  · exact .pure rfl
  · next present =>
      have start : bundle.hasArgument "s" = true := by simpa using present
      have both := rules (.corequire "s" "e") (by simp [concatCommand])
      have ending : bundle.hasArgument "e" = true := (eq_of_beq both).symm.trans start
      obtain ⟨_, startFound⟩ :=
        Bundle.exists_text start (rules (.typeOf .text "s") (by simp [concatCommand]))
      obtain ⟨_, endingFound⟩ :=
        Bundle.exists_text ending (rules (.typeOf .text "e") (by simp [concatCommand]))
      refine (Careful.access startFound).bind fun _ _ => ?_
      exact (Careful.access endingFound).bind fun _ _ => .pure rfl

theorem harmless_imageSide {bundle : Bundle} {name : String}
    (present : bundle.hasArgument name = true)
    (typed : (Rule.typeOf .integer name).holds bundle = true) :
    Harmless (imageSide bundle name) := by
  obtain ⟨number, found⟩ := Bundle.exists_integer present typed
  rw [imageSide, found]
  change Harmless (if _ then _ else _)
  split
  · exact .ok _
  · exact .error rfl

theorem guarded_imageCommand : imageCommand.Guarded := by
  intro info bundle obeyed
  have rules := checkRules_eq_ok_iff.1 obeyed
  have width := rules (.require "w") (by simp [imageCommand])
  have both := rules (.corequire "w" "h") (by simp [imageCommand])
  have height : bundle.hasArgument "h" = true := (eq_of_beq both).symm.trans width
  refine (Careful.ofExcept (harmless_imageSide width
    (rules (.typeOf .integer "w") (by simp [imageCommand])))).bind fun _ _ => ?_
  refine (Careful.ofExcept (harmless_imageSide height
    (rules (.typeOf .integer "h") (by simp [imageCommand])))).bind fun width _ => ?_
  refine (Careful.request (.blankImage _ _) fun _ => id).bind fun _ _ => .pure rfl

end Builtin

namespace SystemModule

variable {info : ModuleInfo} {bundle : Bundle}

theorem harmless_macroArgument {action : MacroAction} {name : String}
    (typed : (Rule.typeOf .text name).holds bundle = true) :
    Harmless (macroArgument bundle action name) := by
  unfold macroArgument
  split
  · next present =>
      obtain ⟨content, found⟩ := Bundle.exists_text present typed
      exact found ▸ .ok content
  · exact .error rfl

theorem careful_macroCommand (name : (Rule.typeOf .text "name").holds bundle = true)
    (body : (Rule.typeOf .text "body").holds bundle = true) :
    Careful (· = .none) (macroCommand.handler info bundle) := by
  unfold macroCommand
  dsimp only
  split
  · refine (Careful.ask .listMacros).bind fun macros _ => ?_
    split
    · exact (Careful.request (.print _) fun _ => id).bind fun _ _ => .pure rfl
    · exact .pure rfl
  · refine (Careful.ofExcept (harmless_macroArgument name)).bind fun name _ => ?_
    exact (Careful.request (.deleteMacro name) fun _ => id).bind fun _ _ => .pure rfl
  · refine (Careful.ofExcept (harmless_macroArgument name)).bind fun name _ => ?_
    refine (Careful.ofExcept (harmless_macroArgument body)).bind fun body _ => ?_
    exact (Careful.request (.addMacro name body) fun _ => id).bind fun _ _ => .pure rfl
  · refine (Careful.ofExcept (harmless_macroArgument name)).bind fun name _ => ?_
    refine (Careful.ofExcept (harmless_macroArgument body)).bind fun body _ => ?_
    exact (Careful.request (.editMacro name body) fun _ => id).bind fun _ _ => .pure rfl
  · have fails : Careful (fun _ : Unit => True) (Handler.fail
        (.badUsage "macro needs exactly one of -add, -edit, -delete or -list")) := .fail rfl
    exact fails.bind fun _ _ => .pure rfl

theorem guarded_macroCommand : macroCommand.Guarded := by
  intro info bundle obeyed
  have rules := checkRules_eq_ok_iff.1 obeyed
  refine (careful_macroCommand (rules (.typeOf .text "name") (by simp [macroCommand]))
    (rules (.typeOf .text "body") (by simp [macroCommand]))).mono fun value isNone => ?_
  rw [isNone]
  rfl

theorem guarded_modulesCommand : modulesCommand.Guarded :=
  fun _ _ _ => (Careful.ask .listModules).bind fun _ _ => .pure rfl

theorem careful_callCommand : Careful (fun _ => True) (callCommand.handler info bundle) := by
  unfold callCommand
  dsimp only
  split
  · exact .fail rfl
  · next line _ =>
      refine (Careful.request (.call line.display) fun _ => id).bind fun _ _ => ?_
      exact (Careful.request (.print _) fun _ => id).bind fun _ _ => .pure trivial

/-- A command that promises no kind may yield any value. -/
theorem guarded_callCommand : callCommand.Guarded :=
  fun _ _ _ => careful_callCommand.mono fun _ _ => rfl

theorem guarded_loadCommand : loadCommand.Guarded := by
  intro info bundle obeyed
  refine Careful.requiredText obeyed (by simp [loadCommand]) (by simp [loadCommand])
    fun library => ?_
  split
  · next present =>
      have typed := checkRules_eq_ok_iff.1 obeyed (.typeOf .text "mod") (by simp [loadCommand])
      obtain ⟨_, found⟩ := Bundle.exists_text present typed
      refine (Careful.access found).bind fun name _ => ?_
      exact (Careful.request (.loadModule library name) fun _ => id).bind fun _ _ => .pure rfl
  · exact (Careful.request (.loadLibrary library) fun _ => id).bind fun _ _ => .pure rfl

theorem guarded_unloadCommand : unloadCommand.Guarded := by
  intro info bundle obeyed
  refine Careful.requiredText obeyed (by simp [unloadCommand]) (by simp [unloadCommand])
    fun name => ?_
  exact (Careful.request (.unloadModule name) fun _ => id).bind fun _ _ => .pure rfl

theorem guarded_exitCommand : exitCommand.Guarded :=
  fun _ _ _ => (Careful.ask .requestExit).bind fun _ _ => .pure rfl

theorem guarded_shoutCommand : shoutCommand.Guarded :=
  fun _ _ _ => .pure rfl

theorem guarded_askCommand : askCommand.Guarded := by
  intro info bundle _
  refine (Careful.request (.print _) fun _ => id).bind fun _ _ => ?_
  exact (Careful.request (.call "wah!") fun _ => id).mono fun _ _ => rfl

theorem guarded_sleepCommand : sleepCommand.Guarded := by
  intro info bundle obeyed
  have rules := checkRules_eq_ok_iff.1 obeyed
  obtain ⟨number, found⟩ := Bundle.exists_integer
    (rules (.require "ms") (by simp [sleepCommand]))
    (rules (.typeOf .integer "ms") (by simp [sleepCommand]))
  refine (Careful.access found).bind fun number _ => ?_
  exact (Careful.request (.sleep _) fun _ => id).bind fun _ _ => .pure rfl

theorem guarded_stringCommand : stringCommand.Guarded :=
  fun _ _ obeyed => Careful.requiredArgument obeyed (by simp [stringCommand]) fun _ => .pure rfl

end SystemModule

namespace Module

theorem guarded_versionCommand : versionCommand.Guarded :=
  fun _ _ _ => .pure rfl

theorem guarded_listCommand : listCommand.Guarded :=
  fun _ _ _ => .pure rfl

theorem guarded_helpCommand : helpCommand.Guarded := by
  intro info bundle _
  have describes : Careful (fun value => value.kind = .list) (helpCommand.handler info bundle) := by
    unfold helpCommand
    dsimp only
    split
    · split
      · exact .pure rfl
      · exact .fail rfl
    · exact .pure rfl
  exact describes.mono fun value isList => by simp [Command.allows, helpCommand, isList]

end Module

namespace Builtin

theorem mapM_asInteger (numbers : List Int64) :
    (numbers.map Value.integer).mapM Value.asInteger = .ok numbers := by
  induction numbers with
  | nil => rfl
  | cons number numbers ih =>
      rw [List.map_cons, List.mapM_cons, ih]
      rfl

theorem exists_map_integer {items : List Value}
    (integers : ∀ item ∈ items, item.kind = .integer) :
    ∃ numbers : List Int64, items = numbers.map .integer := by
  induction items with
  | nil => exact ⟨[], rfl⟩
  | cons item items ih =>
      obtain ⟨isInteger, integers⟩ := List.forall_mem_cons.1 integers
      obtain ⟨numbers, rfl⟩ := ih integers
      cases item with
      | integer number => exact ⟨number :: numbers, rfl⟩
      | none | text | image | list => cases isInteger

/-- An integer or a list of integers. -/
def Summable (value : Value) : Prop :=
  value.kind = .integer ∨
    ∃ items, value = .list items ∧ items.find? (fun item => item.kind != .integer) = none

/-- How adding up a value ends: with an integer or a panic, or with the error of the first access
that fails. -/
inductive AddsUp (value : Value) : Except Failure Value → Prop
  | total {number : Int64} (fits : Summable value) : AddsUp value (.ok (.integer number))
  | overflow {text : Option String} (fits : Summable value) : AddsUp value (.error (.panic text))
  | element {items : List Value} {item : Value} (isList : value = .list items)
      (first : items.find? (fun item => item.kind != .integer) = some item) :
      AddsUp value (.error (.error (.listType .integer item.kind)))
  | scalar (notInteger : value.kind ≠ .integer) (notList : value.kind ≠ .list) :
      AddsUp value (.error (.error (.wrongType .list value.kind)))

theorem listOf_list (items : List Value) (kind : Kind) : (Value.list items).listOf kind =
    match items.find? fun item => item.kind != kind with
    | some item => .error (.listType kind item.kind)
    | none => .ok items :=
  rfl

theorem addsUp_sumCommand (info : ModuleInfo) {bundle : Bundle} {value : Value}
    (found : bundle.get? "values" = some value) :
    ∃ result, sumCommand.handler info bundle = Task.done result ∧ AddsUp value result := by
  have argument : bundle.argument "values" = .ok value := by rw [Bundle.argument, found]
  unfold sumCommand
  dsimp only
  rw [argument, Handler.ofExcept, pure_bind]
  cases value with
  | integer number => exact ⟨_, rfl, .total (.inl rfl)⟩
  | none | text | image => exact ⟨_, rfl, .scalar nofun nofun⟩
  | list items =>
      dsimp only
      rw [listOf_list]
      cases first : items.find? fun item => item.kind != .integer with
      | some item => exact ⟨_, rfl, .element rfl first⟩
      | none =>
          have integers : ∀ item ∈ items, item.kind = .integer := by simpa using first
          obtain ⟨numbers, rfl⟩ := exists_map_integer integers
          rw [Handler.ofExcept, pure_bind, mapM_asInteger, Handler.ofExcept, pure_bind]
          cases addUp 0 numbers with
          | some total => exact ⟨_, rfl, .total (.inr ⟨_, rfl, first⟩)⟩
          | none => exact ⟨_, rfl, .overflow (.inr ⟨_, rfl, first⟩)⟩

end Builtin

open CommandShell.Task (Yields)

/-- Whatever the session replies, with a bundle that obeys its rules a command ends without an
access error, and a value that it yields is of the kind that it has promised. -/
def Command.Sound (command : Command) : Prop :=
  ∀ info bundle, checkRules command.rules bundle = .ok () →
    ∀ evaluate session exchanges changed result,
      Yields (Session.runHandler evaluate session (command.handler info bundle)) exchanges
          (changed, result) →
        (∀ error, result = .error (.error error) → error.isAccess = false) ∧
          ∀ value, result = .ok value → command.allows value = true

theorem Command.Guarded.sound {command : Command} (guarded : command.Guarded) :
    command.Sound := by
  intro info bundle obeyed evaluate session exchanges changed result runs
  have ends := Session.ends_of_runHandler (guarded info bundle obeyed) (fun _ => trivial) runs
  constructor
  · rintro error rfl
    exact ends
  · rintro value rfl
    exact ends

theorem Module.guarded_of_mem_implicitCommands {command : Command}
    (listed : command ∈ implicitCommands) : command.Guarded := by
  simp only [implicitCommands, List.mem_cons, List.not_mem_nil, or_false] at listed
  rcases listed with rfl | rfl | rfl
  exacts [guarded_versionCommand, guarded_listCommand, guarded_helpCommand]

theorem SystemModule.guarded_of_mem_commands {command : Command} (listed : command ∈ commands) :
    command.Guarded := by
  simp only [commands, List.mem_cons, List.not_mem_nil, or_false] at listed
  rcases listed with rfl | rfl | rfl | rfl | rfl | rfl | rfl | rfl | rfl | rfl
  exacts [guarded_modulesCommand, guarded_macroCommand, guarded_callCommand, guarded_loadCommand,
    guarded_unloadCommand, guarded_exitCommand, guarded_shoutCommand, guarded_askCommand,
    guarded_sleepCommand, guarded_stringCommand]

theorem SystemModule.guarded_of_module {module : Module} {name : String} {command : Command}
    (assembled : SystemModule.module = .ok module) (found : module.command? name = some command) :
    command.Guarded := by
  obtain ⟨listed | listed, -⟩ := Module.mem_of_build assembled found
  · exact Module.guarded_of_mem_implicitCommands listed
  · exact guarded_of_mem_commands listed

namespace Builtin

theorem guarded_of_textModule {module : Module} {name : String} {command : Command}
    (assembled : textModule = .ok module) (found : module.command? name = some command) :
    command.Guarded := by
  obtain ⟨listed | listed, -⟩ := Module.mem_of_build assembled found
  · exact Module.guarded_of_mem_implicitCommands listed
  · simp only [List.mem_cons, List.not_mem_nil, or_false] at listed
    rcases listed with rfl | rfl | rfl | rfl
    exacts [guarded_echoCommand, guarded_countCommand, guarded_selectCommand .standard,
      guarded_uppercaseCommand]

theorem guarded_of_utilModule {module : Module} {name : String} {command : Command}
    (assembled : utilModule = .ok module) (found : module.command? name = some command) :
    command.Guarded ∨ command = sumCommand := by
  obtain ⟨listed | listed, -⟩ := Module.mem_of_build assembled found
  · exact .inl (Module.guarded_of_mem_implicitCommands listed)
  · simp only [List.mem_cons, List.not_mem_nil, or_false] at listed
    rcases listed with rfl | rfl | rfl
    exacts [.inl guarded_concatCommand, .inl guarded_imageCommand, .inr rfl]

/-- The two accesses of `sum` that can fail, and when they do. -/
structure SumFails (value : Value) (result : Except Failure Value) : Prop where
  wrongType : ∀ expected found, result = .error (.error (.wrongType expected found)) ↔
    expected = .list ∧ found = value.kind ∧ value.kind ≠ .integer ∧ value.kind ≠ .list
  /-- The kind that the error names is that of the first element that is no integer. -/
  listType : ∀ expected found, result = .error (.error (.listType expected found)) ↔
    expected = .integer ∧ ∃ items item, value = .list items ∧
      items.find? (fun item => item.kind != .integer) = some item ∧ found = item.kind
  present : ∀ name, result ≠ .error (.error (.missingArgument name))
  yields : ∀ sum, result = .ok sum → sumCommand.allows sum = true

theorem Summable.not_scalar {value : Value} (fits : Summable value)
    (notInteger : value.kind ≠ .integer) (notList : value.kind ≠ .list) : False := by
  rcases fits with isInteger | ⟨items, rfl, -⟩
  · exact notInteger isInteger
  · exact notList rfl

theorem Summable.not_element {value item : Value} {items : List Value} (fits : Summable value)
    (isList : value = .list items)
    (first : items.find? (fun item => item.kind != .integer) = some item) : False := by
  subst isList
  rcases fits with isInteger | ⟨_, ⟨⟩, none⟩
  · cases isInteger
  · cases none.symm.trans first

theorem AddsUp.sumFails {value : Value} {result : Except Failure Value}
    (adds : AddsUp value result) : SumFails value result := by
  cases adds with
  | total fits | overflow fits =>
      constructor
      · refine fun _ _ => ⟨nofun, fun ⟨_, _, notInteger, notList⟩ => ?_⟩
        exact (fits.not_scalar notInteger notList).elim
      · refine fun _ _ => ⟨nofun, fun ⟨_, _, _, isList, first, _⟩ => ?_⟩
        exact (fits.not_element isList first).elim
      · exact nofun
      · exact fun _ same => by cases same <;> rfl
  | @element items item isList first =>
      constructor
      · refine fun _ _ => ⟨nofun, fun ⟨_, _, _, notList⟩ => ?_⟩
        exact absurd (isList ▸ rfl) notList
      · intro expected found
        constructor
        · rintro ⟨⟩
          exact ⟨rfl, items, item, isList, first, rfl⟩
        · rintro ⟨rfl, others, other, otherList, otherFirst, rfl⟩
          cases isList.symm.trans otherList
          cases first.symm.trans otherFirst
          rfl
      · exact nofun
      · exact nofun
  | scalar notInteger notList =>
      constructor
      · intro expected found
        constructor
        · rintro ⟨⟩
          exact ⟨rfl, rfl, notInteger, notList⟩
        · rintro ⟨rfl, rfl, -, -⟩
          rfl
      · refine fun _ _ => ⟨nofun, fun ⟨_, _, _, isList, _⟩ => ?_⟩
        exact absurd (isList ▸ rfl) notList
      · exact nofun
      · exact nofun

/-- The rules of the commands that come with the shell protect all of their accesses, except for
those that `sum` makes to the value that it adds up. -/
theorem rules_protect_accesses :
    (∃ system text util, SystemModule.module = .ok system ∧ textModule = .ok text ∧
      utilModule = .ok util ∧ ∀ module ∈ [system, text, util], ∀ name command,
        module.command? name = some command → command.Sound ∨ command = sumCommand) ∧
      (∀ command ∈ Module.implicitCommands, command.Sound) ∧
      ∀ info bundle, checkRules sumCommand.rules bundle = .ok () →
        ∃ value result, bundle.get? "values" = some value ∧ SumFails value result ∧
          ∀ evaluate session,
            Session.runHandler evaluate session (sumCommand.handler info bundle) =
              .done (session, result) := by
  refine ⟨?_, fun command listed => (Module.guarded_of_mem_implicitCommands listed).sound, ?_⟩
  · obtain ⟨system, isSystem⟩ : ∃ system, SystemModule.module = .ok system := ⟨_, rfl⟩
    obtain ⟨text, isText⟩ : ∃ text, textModule = .ok text := ⟨_, rfl⟩
    obtain ⟨util, isUtil⟩ : ∃ util, utilModule = .ok util := ⟨_, rfl⟩
    refine ⟨system, text, util, isSystem, isText, isUtil, ?_⟩
    intro module listed name command found
    simp only [List.mem_cons, List.not_mem_nil, or_false] at listed
    rcases listed with rfl | rfl | rfl
    · exact .inl (SystemModule.guarded_of_module isSystem found).sound
    · exact .inl (guarded_of_textModule isText found).sound
    · exact (guarded_of_utilModule isUtil found).imp_left Command.Guarded.sound
  · intro info bundle obeyed
    have present := checkRules_eq_ok_iff.1 obeyed (.require "values") (by simp [sumCommand])
    obtain ⟨value, -, found⟩ := Bundle.exists_argument present
    obtain ⟨result, handlerEq, adds⟩ := addsUp_sumCommand info found
    refine ⟨value, result, found, adds.sumFails, fun evaluate session => ?_⟩
    rw [handlerEq]
    rfl

/-- A bundle in which a list with a text comes before a number of the same name. -/
def mixed : Bundle where
  arguments := [("values", .list [.integer 1, .plainText "a"]), ("values", .integer 2)]

def enclosed : Bundle where
  arguments := [("s", .plainText "a"), ("m", .plainText "b"), ("e", .plainText "c")]

/-- Adding up such a list fails with the kind of the text, and texts are put together to a text. -/
theorem accesses_of_mixed_and_enclosed :
    checkRules sumCommand.rules mixed = .ok () ∧ checkRules concatCommand.rules enclosed = .ok () ∧
      (∀ info evaluate session,
        Session.runHandler evaluate session (sumCommand.handler info mixed) =
          .done (session, .error (.error (.listType .integer .text)))) ∧
      ∀ info evaluate session exchanges changed value,
        Yields (Session.runHandler evaluate session (concatCommand.handler info enclosed)) exchanges
          (changed, .ok value) → concatCommand.allows value = true := by
  obtain ⟨⟨_, _, util, -, -, isUtil, sound⟩, -, sums⟩ := rules_protect_accesses
  have obeysSum : checkRules sumCommand.rules mixed = .ok () := by decide +kernel
  have obeysConcat : checkRules concatCommand.rules enclosed = .ok () := by decide +kernel
  refine ⟨obeysSum, obeysConcat, ?_, ?_⟩
  · intro info evaluate session
    obtain ⟨value, result, found, fails, runs⟩ := sums info mixed obeysSum
    obtain rfl : .list [.integer 1, .plainText "a"] = value := Option.some.inj found
    rw [runs, (fails.listType .integer .text).2 ⟨rfl, _, _, rfl, rfl, rfl⟩]
  · intro info evaluate session exchanges changed value runs
    have listed := (Module.wellFormed_of_build isUtil).2 concatCommand (by simp)
    have concatSound := (sound util (by simp) _ _ listed).resolve_right fun same =>
      absurd (congrArg (·.name) same) (by decide)
    have sound := concatSound info enclosed obeysConcat evaluate session exchanges changed _ runs
    exact sound.2 value rfl

end Builtin

end CommandShell
