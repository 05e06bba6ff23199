import CommandShell.Proofs.Session.Invocation

/-!
# What handlers are told

Access errors are those of the typed accessors: an argument is missing or a value has the wrong
kind.  A session never replies to a request of a handler with one, since an error of a nested call
comes back in a layer of its own.  So a handler ends with an access error only if one of its own
accesses fails, and whether that can happen is read off its text (`Careful`).
-/

namespace CommandShell

namespace ShellError

/-- Whether an error is one of the typed accessors. -/
def isAccess : ShellError → Bool
  | .missingArgument _ | .wrongType .. | .listType .. => true
  | _ => false

/-- A result that is not an access error. -/
def Harmless {α : Type} (result : Except ShellError α) : Prop :=
  ∀ error, result = .error error → error.isAccess = false

namespace Harmless

variable {α β : Type} {result : Except ShellError α}

theorem ok (value : α) : Harmless (.ok value) := nofun

theorem error {failure : ShellError} (other : failure.isAccess = false) :
    Harmless (.error failure : Except ShellError α) := by
  rintro _ ⟨⟩
  exact other

theorem bind {next : α → Except ShellError β} (harmless : Harmless result)
    (later : ∀ value, Harmless (next value)) : Harmless (result >>= next) := by
  intro error fails
  rcases bind_eq_error_iff.1 fails with fails | ⟨value, -, fails⟩
  · exact harmless error fails
  · exact later value error fails

end Harmless

end ShellError

namespace Task

variable {I : Interface} {α β : Type} {fits : (request : I.Request) → I.Reply request → Prop}

/-- As long as the replies fit, a task ends only with results that are expected. -/
def Delivers (fits : (request : I.Request) → I.Reply request → Prop) (ends : α → Prop) :
    Task I α → Prop
  | .done value => ends value
  | .ask request resume => ∀ answer, fits request answer → Delivers fits ends (resume answer)

theorem Delivers.bind {task : Task I α} {next : α → Task I β} {ends : α → Prop} {last : β → Prop}
    (delivers : task.Delivers fits ends)
    (later : ∀ value, ends value → (next value).Delivers fits last) :
    (task >>= next).Delivers fits last := by
  induction task with
  | done value => exact later value delivers
  | ask request resume ih => exact fun answer fit => ih answer (delivers answer fit)

theorem Delivers.mono {task : Task I α} {ends weaker : α → Prop}
    (delivers : task.Delivers fits ends)
    (weakens : ∀ value, ends value → weaker value) : task.Delivers fits weaker := by
  induction task with
  | done value => exact weakens value delivers
  | ask request resume ih => exact fun answer fit => ih answer (delivers answer fit)

end Task

namespace Handler

open ShellError (Harmless)

/-- A reply that is not an access error. -/
def Fits : (request : Request) → request.Reply → Prop
  | .addMacro .., reply | .editMacro .., reply | .deleteMacro _, reply | .loadLibrary _, reply
  | .loadModule .., reply | .unloadModule _, reply | .blankImage .., reply | .print _, reply
  | .call _, reply | .checkpoint, reply | .sleep _, reply | .awaitRelease, reply => Harmless reply
  | .setMacros _, _ | .listMacros, _ | .listModules, _ | .requestExit, _ | .cancelStep, _
  | .submitLine _, _ => True

/-- A value as expected, an error that is not one of an accessor, or a panic. -/
def Ends {α : Type} (expected : α → Prop) : Except Failure α → Prop
  | .ok value => expected value
  | .error (.error error) => error.isAccess = false
  | .error (.panic _) => True

/-- None of the accesses of a handler fails, and it ends only with values that are expected. -/
def Careful {α : Type} (expected : α → Prop) (handler : Handler α) : Prop :=
  Task.Delivers (I := requests) Fits (Ends expected) handler

namespace Careful

variable {α β : Type} {expected : α → Prop} {last : β → Prop} {result : Except ShellError α}

theorem pure {value : α} (fits : expected value) : Careful expected (pure value) :=
  fits

theorem fail {error : ShellError} (other : error.isAccess = false) :
    Careful expected (Handler.fail error) :=
  other

theorem bind {handler : Handler α} {next : α → Handler β} (careful : Careful expected handler)
    (later : ∀ value, expected value → Careful last (next value)) :
    Careful last (handler >>= next) := by
  refine Task.Delivers.bind careful fun result ends => ?_
  rcases result with (error | text) | value
  · exact ends
  · trivial
  · exact later value ends

theorem mono {handler : Handler α} {weaker : α → Prop} (careful : Careful expected handler)
    (weakens : ∀ value, expected value → weaker value) : Careful weaker handler := by
  refine Task.Delivers.mono careful fun result ends => ?_
  rcases result with (error | text) | value
  · exact ends
  · trivial
  · exact weakens value ends

theorem ask (request : Request) : Careful (Fits request) (Handler.ask request) :=
  fun _ fits => fits

theorem ofExcept (harmless : Harmless result) :
    Careful (fun _ => True) (Handler.ofExcept result) := by
  cases result with
  | error error => exact harmless error rfl
  | ok value => trivial

theorem access {value : α} (found : result = .ok value) :
    Careful (· = value) (Handler.ofExcept result) :=
  found ▸ rfl

theorem request (request : Request) {result : request.Reply → Except ShellError α}
    (harmless : ∀ reply, Fits request reply → Harmless (result reply)) :
    Careful (fun _ => True)
      (Handler.ask request >>= fun reply => Handler.ofExcept (result reply)) :=
  (ask request).bind fun reply fits => ofExcept (harmless reply fits)

end Careful

end Handler

namespace Session

open ShellError (Harmless)
open CommandShell.Task (Yields yields_done_iff)

section Requests

variable (session : Session) (name body library : String)

theorem harmless_checkName : Harmless (MacroTable.checkName name) := by
  unfold MacroTable.checkName
  split
  · exact .ok ()
  · exact .error rfl

theorem harmless_addMacro : Harmless (session.addMacro name body) := by
  refine .bind (.bind (harmless_checkName name) fun _ => ?_) fun _ => .ok _
  split
  · exact .error rfl
  · exact .ok _

theorem harmless_editMacro : Harmless (session.editMacro name body) :=
  .bind (.bind (harmless_checkName name) fun _ => .ok _) fun _ => .ok _

theorem harmless_deleteMacro : Harmless (session.deleteMacro name) := by
  refine .bind ?_ fun _ => .ok _
  unfold MacroTable.delete
  split
  · exact .ok _
  · exact .error rfl

theorem harmless_register (module : Module) : Harmless (session.register module) := by
  refine .bind ?_ fun _ => .ok _
  unfold Registry.add
  split
  · exact .error rfl
  · exact .ok _

theorem harmless_registerAll (modules : List Module) :
    Harmless (session.registerAll modules).2 := by
  induction modules generalizing session with
  | nil => exact .ok []
  | cons module modules ih =>
      unfold registerAll
      cases registered : session.register module with
      | error error =>
          exact .error (harmless_register session module error registered)
      | ok extended =>
          intro error fails
          exact ih extended error (map_eq_error_iff.1 fails)

theorem harmless_instantiate (catalog : Catalog) : Harmless (catalog.instantiate library) := by
  unfold Catalog.instantiate
  split
  · exact .error rfl
  · next modules found =>
      clear found
      induction modules with
      | nil => exact .ok []
      | cons module modules ih =>
          rw [List.mapM_cons]
          refine .bind ?_ fun _ => .bind ih fun _ => .ok _
          cases module with
          | error error => exact .error rfl
          | ok module => exact .ok module

theorem harmless_loadLibrary : Harmless (session.loadLibrary library).2 := by
  unfold loadLibrary
  cases assembled : session.catalog.instantiate library with
  | error error => exact .error (harmless_instantiate library session.catalog error assembled)
  | ok modules =>
      dsimp only
      split
      · exact .error rfl
      · exact harmless_registerAll session modules

theorem harmless_loadModule : Harmless (session.loadModule library name) := by
  refine .bind (harmless_instantiate library session.catalog) fun modules => ?_
  split
  · exact harmless_register session _
  · exact .error rfl

theorem harmless_unloadModule : Harmless (session.unloadModule name) := by
  unfold unloadModule
  split
  · exact .error rfl
  · refine .bind ?_ fun _ => .ok _
    unfold Registry.remove
    split
    · exact .ok _
    · exact .error rfl

theorem harmless_blankImage (width height : Nat) :
    Harmless (session.blankImage width height) := by
  refine .bind ?_ fun _ => .ok _
  unfold Image.blank
  split
  · exact .ok _
  · exact .error rfl

end Requests

variable {evaluate : String → Session → Task signals (Outcome (Option Value))}
variable {session changed : Session} {exchanges : List (Exchange signals)}

/-- A session replies without an access error, unless it ends the handler with a panic. -/
def Replies (request : Handler.Request) : Except Failure request.Reply → Prop
  | .ok answer => Handler.Fits request answer
  | .error failure => ∃ text, failure = .panic text

theorem harmless_unlessCancelled (isCancelled : Bool) :
    Harmless (reply.unlessCancelled isCancelled) := by
  cases isCancelled with
  | true => exact .error rfl
  | false => exact .ok ()

theorem replies_reply (session : Session) (request : Handler.Request) :
    (reply evaluate session request).Ensures (fun _ => True)
      (fun outcome => Replies request outcome.2) := by
  cases request with
  | addMacro name body =>
      rw [reply]
      split
      · exact Harmless.ok ()
      · next fails => exact .error (harmless_addMacro session name body _ fails)
  | editMacro name body =>
      rw [reply]
      split
      · exact Harmless.ok ()
      · next fails => exact .error (harmless_editMacro session name body _ fails)
  | deleteMacro name =>
      rw [reply]
      split
      · exact Harmless.ok _
      · next fails => exact .error (harmless_deleteMacro session name _ fails)
  | setMacros macros => trivial
  | listMacros => trivial
  | listModules => trivial
  | loadLibrary library => exact harmless_loadLibrary session library
  | loadModule library name =>
      rw [reply]
      split
      · exact Harmless.ok ()
      · next fails => exact .error (harmless_loadModule session name library _ fails)
  | unloadModule name =>
      rw [reply]
      split
      · exact Harmless.ok ()
      · next fails => exact .error (harmless_unloadModule session name _ fails)
  | blankImage width height =>
      rw [reply]
      split
      · exact Harmless.ok _
      · next fails => exact .error (harmless_blankImage session width height _ fails)
  | print value =>
      refine ⟨trivial, fun delivery => ?_⟩
      cases delivery with
      | shown => exact Harmless.ok ()
      | failed reason => exact .error rfl
      | panicked text => exact ⟨text, rfl⟩
  | call line =>
      refine (Task.Ensures.anything (evaluate line session)).bind fun outcome _ => ?_
      obtain ⟨changed, (error | text) | value?⟩ := outcome
      · exact .error rfl
      · exact ⟨text, rfl⟩
      · exact Harmless.ok _
  | requestExit => trivial
  | checkpoint => exact ⟨trivial, harmless_unlessCancelled⟩
  | sleep milliseconds => exact ⟨trivial, harmless_unlessCancelled⟩
  | awaitRelease => exact ⟨trivial, harmless_unlessCancelled⟩
  | cancelStep => exact ⟨trivial, fun _ => trivial⟩
  | submitLine line => exact ⟨trivial, fun _ => trivial⟩

theorem ends_of_runHandler {task : Task Handler.requests (Except Failure Value)}
    {ends : Except Failure Value → Prop} {result : Except Failure Value}
    (delivers : task.Delivers Handler.Fits ends) (panics : ∀ text, ends (.error (.panic text)))
    (runs : Yields (runHandler evaluate session task) exchanges (changed, result)) :
    ends result := by
  induction task generalizing session exchanges with
  | done value =>
      obtain ⟨-, ⟨⟩⟩ := yields_done_iff.1 runs
      exact delivers
  | ask request resume ih =>
      rcases yields_runHandler_ask_iff.1 runs with
        ⟨_, failure, replies, ⟨⟩⟩ | ⟨first, between, answer, second, -, replies, runs⟩
      · obtain ⟨text, rfl⟩ := ((replies_reply session request).of_yields replies).2
        exact panics text
      · have fits : Handler.Fits request answer :=
          ((replies_reply session request).of_yields replies).2
        exact ih answer (delivers answer fits) runs

end Session

end CommandShell
