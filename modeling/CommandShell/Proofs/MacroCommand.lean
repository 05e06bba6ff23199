import CommandShell.Proofs.Builtins
import CommandShell.Proofs.Session.Adoption
import CommandShell.Proofs.Session.Execution

/-!
# Managing macros

The command `macro` performs the one operation that its flags ask for, or none.  `Performs` says
what each operation makes of a table, and `Hinders` lists what keeps the command from performing
one, with the error that reports it.
-/

namespace CommandShell
namespace SystemModule

open CommandShell.Session (runHandler_ask)
open CommandShell.Task (Yields yields_ask_iff yields_done_iff)

/-- The flags of a bundle ask for one action and no other. -/
def Asks (bundle : Bundle) (action : MacroAction) : Prop :=
  ∀ other : MacroAction, bundle.hasFlag other.flag = true ↔ other = action

/-- An argument is a text. -/
def Gives (bundle : Bundle) (argument text : String) : Prop :=
  ∃ color, bundle.get? argument = some (.text text color)

/-- What an action makes of a table, with the texts of its arguments. -/
inductive Performs (bundle : Bundle) (table : MacroTable) : MacroAction → MacroTable → Prop
  | add {name body : String} {after : MacroTable} (named : Gives bundle "name" name)
      (defined : Gives bundle "body" body) (added : table.add name body = .ok after) :
      Performs bundle table .add after
  | edit {name body : String} {after : MacroTable} (named : Gives bundle "name" name)
      (defined : Gives bundle "body" body) (edited : table.edit name body = .ok after) :
      Performs bundle table .edit after
  | delete {name body : String} {after : MacroTable} (named : Gives bundle "name" name)
      (deleted : table.delete name = .ok (body, after)) : Performs bundle table .delete after
  | list : Performs bundle table .list table

/-- The actions that give a macro a body. -/
def MacroAction.Defines (action : MacroAction) : Prop := action = .add ∨ action = .edit

/-- What keeps the command from performing an action, and how it is reported. -/
inductive Hinders (bundle : Bundle) (table : MacroTable) : ShellError → Prop
  | undecided (none : ∀ action, ¬ Asks bundle action) :
      Hinders bundle table
        (.badUsage "macro needs exactly one of -add, -edit, -delete or -list")
  | unnamed {action : MacroAction} (asks : Asks bundle action) (changes : action ≠ .list)
      (missing : bundle.hasArgument "name" = false) :
      Hinders bundle table (.badUsage s!"macro -{action.flag} needs the name argument")
  | undefined {action : MacroAction} {name : String} (asks : Asks bundle action)
      (defines : action.Defines) (named : Gives bundle "name" name)
      (missing : bundle.hasArgument "body" = false) :
      Hinders bundle table (.badUsage s!"macro -{action.flag} needs the body argument")
  | invalid {action : MacroAction} {name body : String} (asks : Asks bundle action)
      (defines : action.Defines) (named : Gives bundle "name" name)
      (defined : Gives bundle "body" body) (invalid : isValidName name = false) :
      Hinders bundle table (.badUsage s!"\"{name}\" is not a valid macro name")
  | taken {name body : String} (asks : Asks bundle .add) (named : Gives bundle "name" name)
      (defined : Gives bundle "body" body) (valid : isValidName name = true)
      (taken : table.contains name = true) : Hinders bundle table (.macroExists name)
  | unknown {name : String} (asks : Asks bundle .delete) (named : Gives bundle "name" name)
      (unknown : table.contains name = false) : Hinders bundle table (.noSuchMacro name)

/-- A text for each macro, in ascending order of the names. -/
def Lists (table : MacroTable) (items : List Value) : Prop :=
  ∃ entries : List (String × String), entries.Pairwise (fun first second => first.1 < second.1) ∧
    (∀ name body, (name, body) ∈ entries ↔ table.find? name = some body) ∧
    items = entries.map fun entry => .plainText s!"{entry.1} => {entry.2}"

/-- What is shown while an action is performed. -/
inductive Shows (table : MacroTable) : MacroAction → List (Exchange Session.signals) → Prop
  | nothing {action : MacroAction} (changes : action ≠ .list) : Shows table action []
  | empty (none : Lists table []) : Shows table .list []
  | macros {items : List Value} (lists : Lists table items) (some : items ≠ []) :
      Shows table .list [⟨.present (.value (.list items)), .shown⟩]

/-- The one action that the flags ask for is performed, and nothing else happens. -/
def Manages (bundle : Bundle) (before : Session) (exchanges : List (Exchange Session.signals))
    (after : Session) : Prop :=
  ∃ action table, Asks bundle action ∧ Performs bundle before.macros action table ∧
    after = { before with macros := table } ∧ Shows before.macros action exchanges

/-- How the command fails: it is kept from performing an action, or the list that it is to show
cannot be shown. -/
inductive Fails (bundle : Bundle) (table : MacroTable) :
    List (Exchange Session.signals) → Failure → Prop
  | hindered {error : ShellError} (hinders : Hinders bundle table error) :
      Fails bundle table [] (.error error)
  | unshown {items : List Value} {reason : String} (asks : Asks bundle .list)
      (lists : Lists table items) (some : items ≠ []) :
      Fails bundle table [⟨.present (.value (.list items)), .failed reason⟩]
        (.error (.other reason))
  | broken {items : List Value} {text : String} (asks : Asks bundle .list)
      (lists : Lists table items) (some : items ≠ []) :
      Fails bundle table [⟨.present (.value (.list items)), .panicked text⟩] (.panic text)

variable {bundle : Bundle} {action : MacroAction} {table : MacroTable} {items : List Value}

theorem asks_iff : Asks bundle action ↔ macroActions bundle = [action] := by
  have flags : Asks bundle action ↔
      (bundle.hasFlag "add" = true ↔ .add = action) ∧
      (bundle.hasFlag "edit" = true ↔ .edit = action) ∧
      (bundle.hasFlag "delete" = true ↔ .delete = action) ∧
      (bundle.hasFlag "list" = true ↔ .list = action) := by
    constructor
    · intro asks
      exact ⟨asks .add, asks .edit, asks .delete, asks .list⟩
    · rintro ⟨add, edit, delete, list⟩ other
      cases other
      exacts [add, edit, delete, list]
  rw [flags, macroActions]
  simp only [List.filter, MacroAction.flag]
  generalize bundle.hasFlag "add" = add
  generalize bundle.hasFlag "edit" = edit
  generalize bundle.hasFlag "delete" = delete
  generalize bundle.hasFlag "list" = list
  cases action <;> revert add edit delete list <;> decide

theorem macroArgument_of_gives {argument text : String} (given : Gives bundle argument text) :
    macroArgument bundle action argument = .ok text := by
  obtain ⟨color, found⟩ := given
  have present : bundle.hasArgument argument = true := by
    rw [Bundle.hasArgument_eq, found]
    rfl
  rw [macroArgument, if_pos present, Bundle.text, Bundle.argument, found]
  rfl

theorem macroArgument_of_missing {argument : String}
    (missing : bundle.hasArgument argument = false) :
    macroArgument bundle action argument =
      .error (.badUsage s!"macro -{action.flag} needs the {argument} argument") := by
  rw [macroArgument, missing]
  rfl

theorem gives_or_missing {argument : String}
    (typed : (Rule.typeOf .text argument).holds bundle = true) :
    (∃ text, Gives bundle argument text) ∨ bundle.hasArgument argument = false := by
  rw [Bundle.hasArgument_eq]
  rw [Rule.holds] at typed
  cases found : bundle.get? argument with
  | none => exact .inr rfl
  | some value =>
      rw [found] at typed
      cases value with
      | text content color => exact .inl ⟨content, color, found⟩
      | none | integer | image | list => cases typed

theorem lists_iff : Lists table items ↔
    items = table.toList.map fun entry => .plainText s!"{entry.1} => {entry.2}" := by
  constructor
  · rintro ⟨entries, ascending, complete, rfl⟩
    have same : entries = table.toList := by
      refine NameMap.eq_of_mem_iff ascending table.ascending fun entry => ?_
      exact (complete entry.1 entry.2).trans NameMap.mem_toList_iff.symm
    rw [same]
  · rintro rfl
    exact ⟨table.toList, table.ascending, fun _ _ => NameMap.mem_toList_iff, rfl⟩

section Handler

variable {evaluate : String → Session → Task Session.signals (Session.Outcome (Option Value))}
variable {info : ModuleInfo} {session : Session} {after : MacroTable} {error : ShellError}
variable {name body : String}

/-- What the command ends with once an operation has given a table or an error. -/
def settled (session : Session) : Except ShellError MacroTable → Session.Outcome Value
  | .ok after => ({ session with macros := after }, .ok .none)
  | .error error => (session, .error (.error error))

theorem runHandler_add (asks : Asks bundle .add) (named : Gives bundle "name" name)
    (defined : Gives bundle "body" body) :
    Session.runHandler evaluate session (macroCommand.handler info bundle) =
      .done (settled session (session.macros.add name body)) := by
  simp only [macroCommand, asks_iff.1 asks, macroArgument_of_gives named,
    macroArgument_of_gives defined]
  cases added : session.macros.add name body with
  | ok after =>
      have replied : Session.reply evaluate session (.addMacro name body) =
          .done ({ session with macros := after }, .ok (.ok ())) := by
        rw [Session.reply, Session.addMacro, added]
        rfl
      exact runHandler_ask replied
  | error error =>
      have replied : Session.reply evaluate session (.addMacro name body) =
          .done (session, .ok (.error error)) := by
        rw [Session.reply, Session.addMacro, added]
        rfl
      exact runHandler_ask replied

theorem runHandler_edit (asks : Asks bundle .edit) (named : Gives bundle "name" name)
    (defined : Gives bundle "body" body) :
    Session.runHandler evaluate session (macroCommand.handler info bundle) =
      .done (settled session (session.macros.edit name body)) := by
  simp only [macroCommand, asks_iff.1 asks, macroArgument_of_gives named,
    macroArgument_of_gives defined]
  cases edited : session.macros.edit name body with
  | ok after =>
      have replied : Session.reply evaluate session (.editMacro name body) =
          .done ({ session with macros := after }, .ok (.ok ())) := by
        rw [Session.reply, Session.editMacro, edited]
        rfl
      exact runHandler_ask replied
  | error error =>
      have replied : Session.reply evaluate session (.editMacro name body) =
          .done (session, .ok (.error error)) := by
        rw [Session.reply, Session.editMacro, edited]
        rfl
      exact runHandler_ask replied

theorem runHandler_delete (asks : Asks bundle .delete) (named : Gives bundle "name" name) :
    Session.runHandler evaluate session (macroCommand.handler info bundle) =
      .done (settled session ((session.macros.delete name).map (·.2))) := by
  simp only [macroCommand, asks_iff.1 asks, macroArgument_of_gives named]
  cases deleted : session.macros.delete name with
  | ok removed =>
      have replied : Session.reply evaluate session (.deleteMacro name) =
          .done ({ session with macros := removed.2 }, .ok (.ok removed.1)) := by
        rw [Session.reply, Session.deleteMacro, deleted]
        rfl
      exact runHandler_ask replied
  | error error =>
      have replied : Session.reply evaluate session (.deleteMacro name) =
          .done (session, .ok (.error error)) := by
        rw [Session.reply, Session.deleteMacro, deleted]
        rfl
      exact runHandler_ask replied

theorem runHandler_of_hinders (hinders : Hinders bundle session.macros error) :
    Session.runHandler evaluate session (macroCommand.handler info bundle) =
      .done (session, .error (.error error)) := by
  cases hinders with
  | undecided none =>
      unfold macroCommand
      dsimp only
      split
      · next chosen => exact absurd (asks_iff.2 chosen) (none .list)
      · next chosen => exact absurd (asks_iff.2 chosen) (none .delete)
      · next chosen => exact absurd (asks_iff.2 chosen) (none .add)
      · next chosen => exact absurd (asks_iff.2 chosen) (none .edit)
      · rfl
  | @unnamed action asks changes missing =>
      simp only [macroCommand, asks_iff.1 asks]
      cases action with
      | list => exact absurd rfl changes
      | add | edit | delete =>
          simp only [macroArgument_of_missing missing]
          rfl
  | @undefined action name asks defines named missing =>
      simp only [macroCommand, asks_iff.1 asks]
      rcases defines with rfl | rfl
      all_goals
        simp only [macroArgument_of_gives named, macroArgument_of_missing missing]
        rfl
  | @invalid action name body asks defines named defined invalid =>
      rcases defines with rfl | rfl
      · rw [runHandler_add asks named defined, MacroTable.add, MacroTable.checkName, invalid]
        rfl
      · rw [runHandler_edit asks named defined, MacroTable.edit_of_invalid _ _ invalid]
        rfl
  | @taken name body asks named defined valid taken =>
      rw [runHandler_add asks named defined, MacroTable.add,
        MacroTable.checkName_eq_ok_iff.2 valid, taken]
      rfl
  | @unknown name asks named unknown =>
      rw [runHandler_delete asks named, MacroTable.delete, NameMap.contains_eq_false_iff.1 unknown]
      rfl

/-- A handler that prints goes on with what comes of it, unless that is a panic. -/
theorem runHandler_print {value : Value}
    {resume : Handler.requests.Reply (.print value) →
      Task Handler.requests (Except Failure Value)} :
    Session.runHandler evaluate session (.ask (.print value) resume) =
      .ask (.present (.value value)) fun
        | .shown => Session.runHandler evaluate session (resume (.ok ()))
        | .failed reason => Session.runHandler evaluate session (resume (.error (.other reason)))
        | .panicked text => .done (session, .error (.panic text)) := by
  delta Session.runHandler
  change Task.ask (I := Session.signals) (.present (.value value)) _ = _
  congr 1
  funext delivery
  cases delivery <;> rfl

/-- The command shows a list of the macros, unless there are none. -/
theorem runHandler_list (asks : Asks bundle .list) (lists : Lists session.macros items) :
    (items = [] → Session.runHandler evaluate session (macroCommand.handler info bundle) =
      .done (session, .ok .none)) ∧
    (items ≠ [] → Session.runHandler evaluate session (macroCommand.handler info bundle) =
      .ask (.present (.value (.list items))) fun
        | .shown => .done (session, .ok .none)
        | .failed reason => .done (session, .error (.error (.other reason)))
        | .panicked text => .done (session, .error (.panic text))) := by
  have replied : Session.reply evaluate session .listMacros =
      .done (session, .ok session.macros.toList) := rfl
  obtain rfl := lists_iff.1 lists
  simp only [macroCommand, asks_iff.1 asks]
  generalize session.macros.toList = entries at replied ⊢
  constructor
  · intro none
    rw [List.map_eq_nil_iff.1 none] at replied
    exact runHandler_ask replied
  · intro some
    refine (runHandler_ask replied).trans ?_
    cases entries with
    | nil => exact absurd rfl some
    | cons entry entries =>
        refine runHandler_print.trans ?_
        congr 1
        funext delivery
        cases delivery <;> rfl

end Handler

theorem exists_add_or_hinders {name body : String} (asks : Asks bundle .add)
    (named : Gives bundle "name" name) (defined : Gives bundle "body" body) :
    (∃ after, Performs bundle table .add after) ∨ ∃ error, Hinders bundle table error := by
  cases valid : isValidName name with
  | false => exact .inr ⟨_, .invalid asks (.inl rfl) named defined valid⟩
  | true =>
      cases taken : table.contains name with
      | true => exact .inr ⟨_, .taken asks named defined valid taken⟩
      | false =>
          refine .inl ⟨table.insert name body, .add named defined ?_⟩
          rw [MacroTable.add, MacroTable.checkName_eq_ok_iff.2 valid, taken]
          rfl

theorem exists_edit_or_hinders {name body : String} (asks : Asks bundle .edit)
    (named : Gives bundle "name" name) (defined : Gives bundle "body" body) :
    (∃ after, Performs bundle table .edit after) ∨ ∃ error, Hinders bundle table error := by
  cases valid : isValidName name with
  | false => exact .inr ⟨_, .invalid asks (.inr rfl) named defined valid⟩
  | true => exact .inl ⟨_, .edit named defined (MacroTable.edit_of_valid table body valid)⟩

theorem exists_delete_or_hinders {name : String} (asks : Asks bundle .delete)
    (named : Gives bundle "name" name) :
    (∃ after, Performs bundle table .delete after) ∨ ∃ error, Hinders bundle table error := by
  cases found : table.find? name with
  | none => exact .inr ⟨_, .unknown asks named (NameMap.contains_eq_false_iff.2 found)⟩
  | some body =>
      have deleted : table.delete name = .ok (body, table.erase name) := by
        rw [MacroTable.delete, found]
      exact .inl ⟨_, .delete named deleted⟩

/-- There is an action to perform, or something hinders the command. -/
theorem performs_or_hinders (table : MacroTable)
    (nameTyped : (Rule.typeOf .text "name").holds bundle = true)
    (bodyTyped : (Rule.typeOf .text "body").holds bundle = true) :
    (∃ action after, Asks bundle action ∧ Performs bundle table action after) ∨
      ∃ error, Hinders bundle table error := by
  by_cases decided : ∃ action, Asks bundle action
  · obtain ⟨action, asks⟩ := decided
    suffices performed : (∃ after, Performs bundle table action after) ∨
        ∃ error, Hinders bundle table error from
      performed.imp_left fun ⟨after, performs⟩ => ⟨action, after, asks, performs⟩
    by_cases isList : action = .list
    · subst isList
      exact .inl ⟨table, .list⟩
    · rcases gives_or_missing nameTyped with ⟨name, named⟩ | missing
      · by_cases isDelete : action = .delete
        · subst isDelete
          exact exists_delete_or_hinders asks named
        · have defines : action.Defines := by
            cases action with
            | add => exact .inl rfl
            | edit => exact .inr rfl
            | delete => exact absurd rfl isDelete
            | list => exact absurd rfl isList
          rcases gives_or_missing bodyTyped with ⟨body, defined⟩ | missing
          · rcases defines with rfl | rfl
            · exact exists_add_or_hinders asks named defined
            · exact exists_edit_or_hinders asks named defined
          · exact .inr ⟨_, .undefined asks defines named missing⟩
      · exact .inr ⟨_, .unnamed asks isList missing⟩
  · exact .inr ⟨_, .undecided (not_exists.1 decided)⟩

section Command

variable {evaluate : String → Session → Task Session.signals (Session.Outcome (Option Value))}
variable {info : ModuleInfo} {session changed : Session} {after : MacroTable}
variable {exchanges : List (Exchange Session.signals)}

theorem runHandler_of_performs (asks : Asks bundle action) (changes : action ≠ .list)
    (performs : Performs bundle session.macros action after) :
    Session.runHandler evaluate session (macroCommand.handler info bundle) =
      .done ({ session with macros := after }, .ok .none) := by
  cases performs with
  | add named defined added => rw [runHandler_add asks named defined, added, settled]
  | edit named defined edited => rw [runHandler_edit asks named defined, edited, settled]
  | delete named deleted =>
      rw [runHandler_delete asks named, deleted]
      rfl
  | list => exact absurd rfl changes

theorem yields_of_performs (asks : Asks bundle action)
    (performs : Performs bundle session.macros action after)
    (shows : Shows session.macros action exchanges) :
    Yields (Session.runHandler evaluate session (macroCommand.handler info bundle)) exchanges
      ({ session with macros := after }, .ok .none) := by
  cases shows with
  | nothing changes =>
      rw [runHandler_of_performs asks changes performs]
      exact .refl _
  | empty none =>
      cases performs
      rw [(runHandler_list asks none).1 rfl]
      exact .refl _
  | macros lists some =>
      cases performs
      rw [(runHandler_list asks lists).2 some]
      exact .ask (.refl _)

theorem yields_of_fails {failure : Failure}
    (fails : Fails bundle session.macros exchanges failure) :
    Yields (Session.runHandler evaluate session (macroCommand.handler info bundle)) exchanges
      (session, .error failure) := by
  cases fails with
  | hindered hinders =>
      rw [runHandler_of_hinders hinders]
      exact .refl _
  | unshown asks lists some | broken asks lists some =>
      rw [(runHandler_list asks lists).2 some]
      exact .ask (.refl _)

theorem manages_or_fails_of_list (asks : Asks bundle .list) {result : Except Failure Value}
    (runs : Yields (Session.runHandler evaluate session (macroCommand.handler info bundle))
      exchanges (changed, result)) :
    (result = .ok .none ∧ Manages bundle session exchanges changed) ∨
      ∃ failure, result = .error failure ∧ changed = session ∧
        Fails bundle session.macros exchanges failure := by
  obtain ⟨items, lists⟩ : ∃ items, Lists session.macros items := ⟨_, lists_iff.2 rfl⟩
  obtain ⟨empty, listed⟩ := runHandler_list asks lists
  by_cases some : items = []
  · subst some
    rw [empty rfl] at runs
    obtain ⟨rfl, ⟨⟩⟩ := yields_done_iff.1 runs
    exact .inl ⟨rfl, .list, _, asks, .list, rfl, .empty lists⟩
  · rw [listed some] at runs
    obtain ⟨delivery, later, rfl, resumed⟩ := yields_ask_iff.1 runs
    cases delivery with
    | shown =>
        obtain ⟨rfl, ⟨⟩⟩ := yields_done_iff.1 resumed
        exact .inl ⟨rfl, .list, _, asks, .list, rfl, .macros lists some⟩
    | failed reason =>
        obtain ⟨rfl, ⟨⟩⟩ := yields_done_iff.1 resumed
        exact .inr ⟨_, rfl, rfl, .unshown asks lists some⟩
    | panicked text =>
        obtain ⟨rfl, ⟨⟩⟩ := yields_done_iff.1 resumed
        exact .inr ⟨_, rfl, rfl, .broken asks lists some⟩

theorem manages_or_fails (obeyed : checkRules macroCommand.rules bundle = .ok ())
    {result : Except Failure Value}
    (runs : Yields (Session.runHandler evaluate session (macroCommand.handler info bundle))
      exchanges (changed, result)) :
    (result = .ok .none ∧ Manages bundle session exchanges changed) ∨
      ∃ failure, result = .error failure ∧ changed = session ∧
        Fails bundle session.macros exchanges failure := by
  have holds := Session.checkRules_eq_ok_iff.1 obeyed
  have nameTyped := holds (.typeOf .text "name") (by simp [macroCommand])
  have bodyTyped := holds (.typeOf .text "body") (by simp [macroCommand])
  rcases performs_or_hinders session.macros nameTyped bodyTyped with
    ⟨action, after, asks, performs⟩ | ⟨error, hinders⟩
  · by_cases isList : action = .list
    · exact manages_or_fails_of_list (isList ▸ asks) runs
    · rw [runHandler_of_performs asks isList performs] at runs
      obtain ⟨rfl, ⟨⟩⟩ := yields_done_iff.1 runs
      exact .inl ⟨rfl, action, after, asks, performs, rfl, .nothing isList⟩
  · rw [runHandler_of_hinders hinders] at runs
    obtain ⟨rfl, ⟨⟩⟩ := yields_done_iff.1 runs
    exact .inr ⟨_, rfl, rfl, .hindered hinders⟩

/-- The command succeeds exactly if its flags ask for one action and that can be performed, and
then the table is what the action makes of it.  Whenever it fails, the session is as it was. -/
theorem macro_performs_one_or_none (obeyed : checkRules macroCommand.rules bundle = .ok ()) :
    (∀ value, Yields (Session.runHandler evaluate session (macroCommand.handler info bundle))
        exchanges (changed, .ok value) ↔
      value = .none ∧ Manages bundle session exchanges changed) ∧
    ∀ failure, Yields (Session.runHandler evaluate session (macroCommand.handler info bundle))
        exchanges (changed, .error failure) ↔
      changed = session ∧ Fails bundle session.macros exchanges failure := by
  refine ⟨fun value => ⟨fun runs => ?_, ?_⟩, fun failure => ⟨fun runs => ?_, ?_⟩⟩
  · rcases manages_or_fails obeyed runs with ⟨⟨⟩, manages⟩ | ⟨_, ⟨⟩, -⟩
    exact ⟨rfl, manages⟩
  · rintro ⟨rfl, action, after, asks, performs, rfl, shows⟩
    exact yields_of_performs asks performs shows
  · rcases manages_or_fails obeyed runs with ⟨⟨⟩, -⟩ | ⟨_, ⟨⟩, fails⟩
    exact fails
  · rintro ⟨rfl, fails⟩
    exact yields_of_fails fails

/-- The flags and the arguments of a request for the command. -/
def requestOf (flags : List String) (arguments : List (String × String)) : Bundle where
  flags := .ofNames flags
  arguments := arguments.map fun argument => (argument.1, .plainText argument.2)

/-- A session with one macro. -/
def stocked : Session where
  registry := ∅
  macros := NameMap.insert ∅ "a" "1"

theorem asks_requestOf : Asks (requestOf ["add", "x"] [("name", "b"), ("body", "2")]) .add ∧
    Asks (requestOf ["list", "n"] []) .list := by
  simp only [asks_iff]
  decide +kernel

/-- A flag that is no action is passed over, and a list that cannot be shown leaves the table
alone. -/
theorem macro_performs_requests :
    checkRules macroCommand.rules (requestOf ["add", "x"] [("name", "b"), ("body", "2")]) = .ok () ∧
    checkRules macroCommand.rules (requestOf ["list", "n"] []) = .ok () ∧
    ∀ info evaluate,
      Yields (Session.runHandler evaluate stocked (macroCommand.handler info
          (requestOf ["add", "x"] [("name", "b"), ("body", "2")]))) []
        ({ stocked with macros := NameMap.insert stocked.macros "b" "2" }, .ok .none) ∧
      Yields (Session.runHandler evaluate stocked (macroCommand.handler info
          (requestOf ["list", "n"] [])))
        [⟨.present (.value (.list [.plainText "a => 1"])), .failed "full"⟩]
        (stocked, .error (.error (.other "full"))) := by
  obtain ⟨adds, lists⟩ := asks_requestOf
  have addObeys : checkRules macroCommand.rules
      (requestOf ["add", "x"] [("name", "b"), ("body", "2")]) = .ok () := by decide +kernel
  have listObeys : checkRules macroCommand.rules (requestOf ["list", "n"] []) = .ok () := by
    decide +kernel
  refine ⟨addObeys, listObeys, fun info evaluate => ⟨?_, ?_⟩⟩
  · have performs : Performs (requestOf ["add", "x"] [("name", "b"), ("body", "2")])
        stocked.macros .add (NameMap.insert stocked.macros "b" "2") :=
      .add ⟨_, rfl⟩ ⟨_, rfl⟩ rfl
    exact ((macro_performs_one_or_none addObeys).1 _).2
      ⟨rfl, .add, _, adds, performs, rfl, .nothing nofun⟩
  · have shown : Lists stocked.macros [.plainText "a => 1"] := lists_iff.2 rfl
    exact ((macro_performs_one_or_none listObeys).2 _).2 ⟨rfl, .unshown lists shown nofun⟩

end Command

end SystemModule
end CommandShell
