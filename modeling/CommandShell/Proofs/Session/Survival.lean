import CommandShell.Proofs.Session.Adoption
import CommandShell.Proofs.Session.Loading
import CommandShell.Proofs.Session.NetChange
import CommandShell.Proofs.Storage

/-!
# Macros that survive the session

While a reliable storage is attached to a session that began without macros, it keeps the
macros of the session: attaching it makes the two equal, and every step stores exactly
what it changed (`persisted_perform`).  Another session can take all of them over from the
storage exactly if they have valid names, and that is so as long as no handler assigns others.
-/

namespace CommandShell

open CommandShell.Task (Yields yields_done_iff)

namespace Session

variable {before after : Session} {operation : Operation}
variable {exchanges : List (Exchange signals)}

theorem macros_loadLibrary (session : Session) (library : String) :
    (session.loadLibrary library).1.macros = session.macros := by
  by_cases fits : ∃ modules, session.catalog.instantiate library = .ok modules ∧
      ∀ module ∈ modules, session.registry.contains module.name = false
  · obtain ⟨modules, assembled, fresh⟩ := fits
    rw [loadLibrary_of_fresh assembled fresh]
    rcases gains_registerAll session modules with ⟨-, gains⟩ | ⟨_, _, _, -, gains, -⟩ <;>
      exact gains.macros_eq
  · obtain ⟨error, refused⟩ := loadLibrary_of_not_fresh fits
    rw [refused]

/-- An operation that changes macros only in a step. -/
def Operation.Tracked : Operation → Prop
  | .execute _ | .run _ | .register _ | .loadLibrary _ | .loadModule .. | .unloadModule _
  | .requestExit => True
  | .call _ | .adoptMacros _ | .addMacro .. | .editMacro .. | .deleteMacro _ => False

/-- Such an operation asks to store what it changes, however it turns out. -/
theorem persisted_perform (tracked : operation.Tracked)
    (performed : Yields (before.perform operation) exchanges after) :
    persisted exchanges = MacroTable.changes before.macros after.macros := by
  have unchanged (exchangesEq : exchanges = []) (macrosEq : after.macros = before.macros) :
      persisted exchanges = MacroTable.changes before.macros after.macros := by
    rw [exchangesEq, macrosEq, MacroTable.changes_self]
    rfl
  cases operation with
  | execute line =>
      obtain ⟨_, stepping⟩ := yields_session_iff.1 performed
      exact persisted_step stepping
  | run line =>
      obtain ⟨_, ran⟩ := yields_session_iff.1 performed
      exact persisted_run ran
  | register module =>
      obtain ⟨exchangesEq, rfl⟩ := yields_done_iff.1 performed
      refine unchanged exchangesEq ?_
      cases registered : before.register module with
      | error error => rfl
      | ok extended =>
          obtain ⟨-, rfl⟩ := register_eq_ok_iff.1 registered
          rfl
  | loadLibrary library =>
      obtain ⟨exchangesEq, rfl⟩ := yields_done_iff.1 performed
      exact unchanged exchangesEq (macros_loadLibrary before library)
  | loadModule library name =>
      obtain ⟨exchangesEq, rfl⟩ := yields_done_iff.1 performed
      refine unchanged exchangesEq ?_
      cases loaded : before.loadModule library name with
      | error error => rfl
      | ok extended =>
          obtain ⟨_, _, -, -, gains⟩ := gains_of_loadModule loaded
          exact gains.macros_eq
  | unloadModule name =>
      obtain ⟨exchangesEq, rfl⟩ := yields_done_iff.1 performed
      refine unchanged exchangesEq ?_
      cases unloaded : before.unloadModule name with
      | error error => rfl
      | ok reduced =>
          unfold unloadModule at unloaded
          split at unloaded
          · cases unloaded
          · obtain ⟨_, -, ⟨⟩⟩ := bind_eq_ok_iff.1 unloaded
            rfl
  | requestExit =>
      obtain ⟨exchangesEq, rfl⟩ := yields_done_iff.1 performed
      exact unchanged exchangesEq rfl
  | call | adoptMacros | addMacro | editMacro | deleteMacro => exact tracked.elim

end Session

namespace Storage

open Session (Signal signals persisted Operation)

variable {σ : Type} {storage : Storage σ} {keeps : σ → NameMap String → Prop}
variable {state : σ} {bodies : NameMap String}

/-- Attach a storage to a session: load it and add its macros. -/
def attach (storage : Storage σ) (session : Session) (state : σ) :
    (Session × Except String Unit) × σ :=
  match storage.load state with
  | (.error reason, after) => ((session, .error reason), after)
  | (.ok stored, after) =>
      let (session, adopted) := session.adoptMacros stored
      ((session, adopted.mapError ShellError.message), after)

/-- What a conversation makes of a storage that is asked to store changes in it. -/
inductive Served (storage : Storage σ) : σ → List (Exchange signals) → σ → Prop
  | nil (state : σ) : Served storage state [] state
  | persist {state between after : σ} {name : String} {body? : Option String}
      {answer : Except String Unit} {exchanges : List (Exchange signals)}
      (persisted : storage.persist name body? state = (answer, between))
      (later : Served storage between exchanges after) :
      Served storage state (⟨.persist name body?, answer⟩ :: exchanges) after
  | other {state after : σ} {exchange : Exchange signals}
      {exchanges : List (Exchange signals)} (passes : ¬ Signal.Stores exchange.1)
      (later : Served storage state exchanges after) :
      Served storage state (exchange :: exchanges) after

/-- A reliable storage has made every change that it was asked to make. -/
theorem Reliable.keeps_of_served (reliable : storage.Reliable keeps) {after : σ}
    {exchanges : List (Exchange signals)} (served : storage.Served state exchanges after)
    (kept : keeps state bodies) :
    keeps after ((persisted exchanges).foldl MacroTable.applyChange bodies) := by
  induction served generalizing bodies with
  | nil => exact kept
  | @persist _ _ _ name body? _ exchanges persisting _ ih =>
      obtain ⟨_, succeeds, kept⟩ := reliable.persist name body? kept
      cases persisting.symm.trans succeeds
      exact ih kept
  | @other _ _ exchange exchanges passes _ ih =>
      have skipped : persisted (exchange :: exchanges) = persisted exchanges :=
        List.filterMap_cons_none (Session.change?_eq_none_iff.2 passes)
      rw [skipped]
      exact ih kept

/-- An operation with a property, of a session that has a storage attached. -/
def OperatesBy (property : Session → Operation → Prop) (storage : Storage σ)
    (before after : Session × σ) : Prop :=
  ∃ operation exchanges, Operation.Tracked operation ∧ property before.1 operation ∧
    Yields (before.1.perform operation) exchanges after.1 ∧
    storage.Served before.2 exchanges after.2

/-- An operation of a session that has a storage attached. -/
abbrev Operates : Storage σ → Session × σ → Session × σ → Prop := OperatesBy fun _ _ => True

/-- Operations keep a session and its storage in step. -/
theorem Reliable.operates (reliable : storage.Reliable keeps) {before after : Session × σ}
    (operates : storage.Operates before after) (kept : keeps before.2 before.1.macros) :
    keeps after.2 after.1.macros := by
  obtain ⟨operation, exchanges, tracked, -, performed, served⟩ := operates
  have net := MacroTable.netChange_changes before.1.macros after.1.macros
  have keptAfter := reliable.keeps_of_served served kept
  rwa [Session.persisted_perform tracked performed, net.replay] at keptAfter

theorem valid_of_operates {before after : Session × σ}
    (operates : storage.OperatesBy Session.Orderly before after)
    (valid : before.1.macros.Valid) : after.1.macros.Valid := by
  obtain ⟨operation, exchanges, -, orderly, performed, -⟩ := operates
  exact Session.valid_of_transition orderly valid (Session.transition_of_perform performed)

theorem attach_of_load {session : Session} {stored : NameMap String} {after : σ}
    (loaded : storage.load state = (.ok stored, after)) :
    storage.attach session state =
      (({ session with macros := (session.macros.adopt stored.toList).1 },
        (session.macros.adopt stored.toList).2.mapError ShellError.message), after) := by
  rw [attach, loaded]
  rfl

theorem Reliable.attach_of_empty (reliable : storage.Reliable keeps) {session : Session}
    (kept : keeps state bodies) (valid : MacroTable.Valid bodies)
    (empty : session.macros = ∅) :
    ∃ after, storage.attach session state =
      (({ session with macros := bodies }, .ok ()), after) ∧ keeps after bodies := by
  obtain ⟨after, loaded, kept⟩ := reliable.load kept
  refine ⟨after, ?_, kept⟩
  rw [attach_of_load loaded, empty, MacroTable.adopt_empty valid]
  rfl

/-- A session without macros can take over stored ones exactly if they have valid names. -/
theorem Reliable.attach_eq_ok_iff (reliable : storage.Reliable keeps) {session : Session}
    (kept : keeps state bodies) (empty : session.macros = ∅) :
    (storage.attach session state).1.2 = .ok () ↔ MacroTable.Valid bodies := by
  constructor
  · intro attached
    by_contra invalid
    obtain ⟨after, loaded, -⟩ := reliable.load kept
    obtain ⟨left, error, refused⟩ := MacroTable.adopt_empty_of_not_valid invalid
    rw [attach_of_load loaded, empty, refused] at attached
    cases attached
  · intro valid
    obtain ⟨after, attached, -⟩ := reliable.attach_of_empty kept valid empty
    rw [attached]

/-- Another session without macros takes over all macros from a storage exactly if they have valid
names. -/
structure Restores (storage : Storage σ) (state : σ) (bodies : MacroTable) : Prop where
  succeeds_iff : ∀ other : Session, other.macros = ∅ →
    ((storage.attach other state).1.2 = .ok () ↔ bodies.Valid)
  same : bodies.Valid → ∀ other : Session, other.macros = ∅ →
    (storage.attach other state).1.1 = { other with macros := bodies }

theorem Reliable.restores (reliable : storage.Reliable keeps) (kept : keeps state bodies) :
    storage.Restores state bodies where
  succeeds_iff _ := reliable.attach_eq_ok_iff kept
  same valid other empty := by
    obtain ⟨after, attached, -⟩ := reliable.attach_of_empty kept valid empty
    rw [attached]

/-- Attaching a storage to a session without macros succeeds and gives the session the
macros that are kept.  From then on, after any operations, what the storage keeps and loads
are the macros of the session, and it restores them to another session.  They have valid names
as long as no handler assigns others. -/
def Survives (storage : Storage σ) (keeps : σ → NameMap String → Prop) : Prop :=
  ∀ (state : σ) (bodies : NameMap String) (session : Session), keeps state bodies →
    MacroTable.Valid bodies → session.macros = ∅ →
    ∃ opened, storage.attach session state =
        (({ session with macros := bodies }, .ok ()), opened) ∧
      (∀ after, Relation.ReflTransGen storage.Operates
          ({ session with macros := bodies }, opened) after →
        keeps after.2 after.1.macros ∧
        (storage.load after.2).1 = .ok after.1.macros ∧
        storage.Restores after.2 after.1.macros) ∧
      ∀ after, Relation.ReflTransGen (storage.OperatesBy Session.Orderly)
          ({ session with macros := bodies }, opened) after →
        after.1.macros.Valid

theorem Reliable.survives (reliable : storage.Reliable keeps) : storage.Survives keeps := by
  intro state bodies session kept valid empty
  obtain ⟨opened, attached, kept⟩ := reliable.attach_of_empty kept valid empty
  refine ⟨opened, attached, fun after operations => ?_, fun after operations => ?_⟩
  · have keptAfter : keeps after.2 after.1.macros := by
      induction operations with
      | refl => exact kept
      | tail _ operates ih => exact reliable.operates operates ih
    obtain ⟨loaded, loadedEq, -⟩ := reliable.load keptAfter
    exact ⟨keptAfter, by rw [loadedEq], reliable.restores keptAfter⟩
  · induction operations with
    | refl => exact valid
    | tail _ operates ih => exact valid_of_operates operates ih

/-- Macros survive in every reliable storage, and in particular in a macro file of a faithful
format that the host holds. -/
theorem macros_survive {σ : Type} :
    (∀ (storage : Storage σ) (keeps : σ → NameMap String → Prop),
      storage.Reliable keeps → storage.Survives keeps) ∧
    ∀ (format : MacroFormat) (reply : MacroFile.HostReply σ) (path : String)
      (holds : σ → Option String → Prop), format.Faithful → MacroFile.Held reply path holds →
        (MacroFile.storage format reply path).Survives (MacroFile.Keeps format holds) :=
  ⟨fun _ _ reliable => reliable.survives,
    fun _ _ _ _ faithful held => (MacroFile.reliable_storage faithful held).survives⟩

/-- A handler that defines a macro and fails. -/
def defineAndFail : Handler Value := do
  Handler.addMacro "x" "wah!"
  Handler.fail (.badUsage "no")

def macrosToml : Storage MemoryHost :=
  MacroFile.storage .toml MemoryHost.reply "macros.toml"

/-- A macro that a failing step has defined is in the macro file, and the next session gets
it from there. -/
theorem macros_survive_in_file :
    MacroFormat.toml.Faithful ∧
    MacroFile.Held MemoryHost.reply "macros.toml" MemoryHost.HasMacros ∧
    ∃ opened host,
      macrosToml.attach (Session.ofHandler defineAndFail) {} =
        ((Session.ofHandler defineAndFail, .ok ()), opened) ∧
      macrosToml.Operates (Session.ofHandler defineAndFail, opened)
        ({ Session.ofHandler defineAndFail with macros := .ofList [("x", "wah!")] }, host) ∧
      (macrosToml.attach (Session.ofHandler Session.mangle) host).1 =
        ({ Session.ofHandler Session.mangle with macros := .ofList [("x", "wah!")] }, .ok ()) := by
  have faithful := MacroFormat.faithful_toml
  have held := MemoryHost.held_macros
  have noFile : MacroFile.Keeps .toml MemoryHost.HasMacros {} ∅ := ⟨none, ⟨rfl, rfl⟩, rfl⟩
  obtain ⟨opened, attached, survives, -⟩ := macros_survive.2 .toml MemoryHost.reply "macros.toml"
    MemoryHost.HasMacros faithful held {} ∅ (Session.ofHandler defineAndFail) noFile .empty rfl
  have kept := (survives _ .refl).1
  obtain ⟨host, persisted, -⟩ :=
    (MacroFile.reliable_storage faithful held).persist "x" (some "wah!") kept
  have stepped : Yields ((Session.ofHandler defineAndFail).perform (.execute "go"))
      [⟨.observe, false⟩, ⟨.persist "x" (some "wah!"), .ok ()⟩]
      { Session.ofHandler defineAndFail with macros := .ofList [("x", "wah!")] } := by
    rw [Session.perform, Session.step_of_read (Session.read_ofHandler defineAndFail)]
    delta Session.runHandler
    exact .ask (.ask (.refl _))
  have operates : macrosToml.Operates (Session.ofHandler defineAndFail, opened)
      ({ Session.ofHandler defineAndFail with macros := .ofList [("x", "wah!")] }, host) :=
    ⟨.execute "go", _, trivial, trivial, stepped, .other id (.persist persisted (.nil host))⟩
  obtain ⟨-, -, restores⟩ := survives _ (.single operates)
  have valid : MacroTable.Valid (.ofList [("x", "wah!")]) :=
    MacroTable.Valid.empty.insert (by decide)
  have other : (Session.ofHandler Session.mangle).macros = ∅ := rfl
  exact ⟨faithful, held, opened, host, attached, operates,
    Prod.ext (restores.same valid _ other) ((restores.succeeds_iff _ other).2 valid)⟩

/-- A macro whose name nobody has checked is stored, and then no session can take over the stored
macros any more. -/
theorem refused_of_overwrite :
    ∃ session store, Session.Reachable (Session.libraryOf Session.overwrite) session ∧
      session.macros = ∅ ∧
      MacroStore.storage.attach session {} = ((session, .ok ()), {}) ∧
      MacroStore.storage.Operates (session, {}) (Session.overwritten session, store) ∧
      MacroStore.storage.load store = (.ok (Session.overwritten session).macros, store) ∧
      ∀ other : Session, other.macros = ∅ →
        (MacroStore.storage.attach other store).1.2 =
          .error "\"two words\" is not a valid macro name" := by
  obtain ⟨session, reachable, empty, performed, -⟩ := Session.exists_reachable_overwritten
  have attached : MacroStore.storage.attach session {} = ((session, .ok ()), {}) := by
    obtain ⟨registry, macros, previous, catalog, exitRequested, images⟩ := session
    cases empty
    rfl
  have served : MacroStore.storage.Served {}
      [⟨.observe, false⟩, ⟨.observe, false⟩, ⟨.persist "two words" (some "wah!"), .ok ()⟩]
      (MacroStore.persist {} "two words" (some "wah!")).2 :=
    .other id (.other id (.persist rfl (.nil _)))
  have loaded : MacroStore.storage.load (MacroStore.persist {} "two words" (some "wah!")).2 =
      (.ok (.ofList [("two words", "wah!")]), _) := rfl
  refine ⟨session, _, reachable, empty, attached,
    ⟨.execute "go", _, trivial, trivial, performed, served⟩, loaded, fun other empty => ?_⟩
  have refused : MacroTable.adopt ∅ (NameMap.ofList [("two words", "wah!")]).toList =
      (∅, .error (.badUsage "\"two words\" is not a valid macro name")) := by
    decide +kernel
  rw [attach_of_load loaded, empty, refused]
  rfl

end Storage

end CommandShell
