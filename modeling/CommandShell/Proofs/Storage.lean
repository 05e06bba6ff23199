import CommandShell.FileTree
import CommandShell.Outlets
import CommandShell.Proofs.Toml.RoundTrip

/-!
# Where macros are kept

A storage loads macros and stores their changes, in a state of its own.  It is reliable if
it loads what it keeps and changes what it keeps as it is told.  A store in memory that
refuses nothing is reliable, and so is a macro file, provided that the host keeps the file
as it was written and that what is written in the format of the file can be read back.
-/

namespace CommandShell

/-- How macros are loaded and how their changes are stored. -/
structure Storage (σ : Type) where
  load : σ → Except String (NameMap String) × σ
  persist : String → Option String → σ → Except String Unit × σ

/-- Loading yields the macros that a state keeps, and storing a change succeeds and changes
them by it. -/
structure Storage.Reliable {σ : Type} (storage : Storage σ)
    (keeps : σ → NameMap String → Prop) : Prop where
  load : ∀ {state bodies}, keeps state bodies →
    ∃ after, storage.load state = (.ok bodies, after) ∧ keeps after bodies
  persist : ∀ {state bodies} name body?, keeps state bodies →
    ∃ after, storage.persist name body? state = (.ok (), after) ∧
      keeps after (MacroTable.applyChange bodies (name, body?))

namespace MacroStore

/-- A store in memory as a storage. -/
def storage : Storage MacroStore where
  load store := (.ok store.bodies, store)
  persist name body? store := store.persist name body?

/-- A store keeps its macros and refuses none. -/
def Keeps (store : MacroStore) (bodies : NameMap String) : Prop :=
  store.bodies = bodies ∧
    ∀ earlier change, store.refuses.reason? earlier change = none

theorem reliable_storage : storage.Reliable Keeps where
  load {store _} keeps := by
    obtain ⟨rfl, accepts⟩ := keeps
    exact ⟨store, rfl, rfl, accepts⟩
  persist {store _} name body? keeps := by
    obtain ⟨rfl, accepts⟩ := keeps
    simp only [storage, MacroStore.persist, accepts]
    exact ⟨_, rfl, rfl, accepts⟩

end MacroStore

/-- All macros can be written in a format, and what is written is read as those macros. -/
def MacroFormat.Faithful (format : MacroFormat) : Prop :=
  ∀ macros, ∃ text, format.write? macros = some text ∧ format.parse? text = some macros

theorem MacroFormat.faithful_toml : MacroFormat.toml.Faithful :=
  fun macros => ⟨_, rfl, MacroFile.parse?_write macros⟩

namespace MacroFile

/-- How a host with a state of its own replies. -/
abbrev HostReply (σ : Type) :=
  (request : Host.requests.Request) → σ → Host.requests.Reply request × σ

variable {σ : Type} {reply : HostReply σ} {format : MacroFormat}
variable {path : String} {holds : σ → Option String → Prop}
variable {state : σ} {text? : Option String} {bodies : NameMap String}

/-- A macro file as a storage. -/
def storage (format : MacroFormat) (reply : HostReply σ) (path : String) : Storage σ where
  load state :=
    let (result, after) := Task.run reply (load path format) state
    (result.mapError MacroFileError.message, after)
  persist name body? state :=
    let (result, after) := Task.run reply (persist path name body? format) state
    (result.mapError MacroFileError.message, after)

/-- A host leaves a file, or the lack of one, as it is until the file is written anew, and
it can write the file. -/
structure Held (reply : HostReply σ) (path : String) (holds : σ → Option String → Prop) :
    Prop where
  pathExists : ∀ {state text?}, holds state text? →
    ∃ after, reply (Host.Request.pathExists path) state = (text?.isSome, after) ∧ holds after text?
  readFile : ∀ {state text}, holds state (some text) →
    ∃ after, reply (Host.Request.readFile path) state = (.ok text, after) ∧ holds after (some text)
  createDirectory : ∀ {state text?}, holds state text? →
    ∃ after, reply (Host.Request.createDirectory ((Path.parent? path).getD "")) state =
        (true, after) ∧
      holds after text?
  writeFile : ∀ {state text?} text, holds state text? →
    ∃ after, reply (Host.Request.writeFile path text) state = (true, after) ∧
      holds after (some text)

/-- The macros in a file, or in none. -/
def contents? (format : MacroFormat) : Option String → Option (NameMap String)
  | none => some ∅
  | some text => format.parse? text

theorem run_ask_bind {α : Type} {request : Host.requests.Request}
    {answer : Host.requests.Reply request} {after : σ}
    (next : Host.requests.Reply request → Task Host.requests α)
    (replied : reply request state = (answer, after)) :
    Task.run reply (Host.ask request >>= next) state = Task.run reply (next answer) after := by
  change Task.run reply (next (reply request state).1) (reply request state).2 = _
  rw [replied]

theorem run_load (held : Held reply path holds) (holding : holds state text?)
    (contents : contents? format text? = some bodies) :
    ∃ after, Task.run reply (load path format) state = (.ok bodies, after) ∧
      holds after text? := by
  obtain ⟨found, foundEq, holding⟩ := held.pathExists holding
  cases text? with
  | none =>
      cases contents
      exact ⟨found, run_ask_bind _ foundEq, holding⟩
  | some text =>
      obtain ⟨read, readEq, holding⟩ := held.readFile holding
      refine ⟨read, (run_ask_bind _ foundEq).trans ((run_ask_bind _ readEq).trans ?_), holding⟩
      change format.parse? text = some bodies at contents
      simp only [contents]
      rfl

theorem run_persist (held : Held reply path holds) (holding : holds state text?)
    (contents : contents? format text? = some bodies) (name : String) (body? : Option String)
    {text : String}
    (writes : format.write? (MacroTable.applyChange bodies (name, body?)) = some text) :
    ∃ after, Task.run reply (persist path name body? format) state = (.ok (), after) ∧
      holds after (some text) := by
  obtain ⟨loaded, loadedEq, holding⟩ := run_load held holding contents
  rw [persist, Task.run_bind, loadedEq]
  simp only [writes]
  split
  · obtain ⟨created, createdEq, holding⟩ := held.createDirectory holding
    obtain ⟨written, writtenEq, holding⟩ := held.writeFile text holding
    exact ⟨written, (run_ask_bind _ createdEq).trans (run_ask_bind _ writtenEq), holding⟩
  · obtain ⟨written, writtenEq, holding⟩ := held.writeFile text holding
    exact ⟨written, run_ask_bind _ writtenEq, holding⟩

/-- The file that a host holds has certain macros in it. -/
def Keeps (format : MacroFormat) (holds : σ → Option String → Prop) (state : σ)
    (bodies : NameMap String) : Prop :=
  ∃ text?, holds state text? ∧ contents? format text? = some bodies

/-- A macro file is reliable if its format is faithful and the host holds it. -/
theorem reliable_storage (faithful : format.Faithful) (held : Held reply path holds) :
    (storage format reply path).Reliable (Keeps format holds) where
  load := by
    rintro state bodies ⟨text?, holding, contents⟩
    obtain ⟨after, loadedEq, holding⟩ := run_load held holding contents
    refine ⟨after, ?_, text?, holding, contents⟩
    simp only [storage, loadedEq]
    rfl
  persist := by
    rintro state bodies name body? ⟨text?, holding, contents⟩
    obtain ⟨text, writes, parses⟩ := faithful (MacroTable.applyChange bodies (name, body?))
    obtain ⟨after, persistedEq, holding⟩ := run_persist held holding contents name body? writes
    refine ⟨after, ?_, _, holding, parses⟩
    simp only [storage, persistedEq]
    rfl

end MacroFile

namespace MemoryHost

/-- What a host in memory has under the name `macros.toml` in its root. -/
def HasMacros (host : MemoryHost) (text? : Option String) : Prop :=
  host.files.workingDirectory = [] ∧
    host.files.entries.find? "/macros.toml" = text?.map .file

variable {host : MemoryHost} {text? : Option String}

theorem resolve_macros (has : HasMacros host text?) :
    Path.resolve host.files.workingDirectory "macros.toml" = ["macros.toml"] := by
  rw [has.1]
  decide +kernel

theorem entry?_macros (has : HasMacros host text?) :
    host.files.entry? ["macros.toml"] = text?.map .file :=
  has.2

theorem isFilePath_macros : FileTree.isUsable "macros.toml" = true ∧
    FileTree.namesDirectory "macros.toml" = false := by
  decide +kernel

theorem look_macros (has : HasMacros host text?) :
    host.files.look "macros.toml" = match text? with
      | none => .error .notFound
      | some text => .ok (.file text) := by
  obtain ⟨usable, file⟩ := isFilePath_macros
  have nonempty : "macros.toml".isEmpty = false := by decide +kernel
  have reachable : host.files.isBlocked ["macros.toml"] = false := rfl
  unfold FileTree.look
  simp only [resolve_macros has, usable, reachable, entry?_macros has, nonempty]
  cases text? with
  | none => rfl
  | some text => simp [file]

theorem writeFile_macros (has : HasMacros host text?) (text : String) :
    host.files.writeFile "macros.toml" text = some { host.files with
      entries := host.files.entries.insert "/macros.toml" (.file text) } := by
  obtain ⟨usable, file⟩ := isFilePath_macros
  have root : host.files.entry? [] = some .directory := rfl
  unfold FileTree.writeFile
  simp only [resolve_macros has, usable, file, entry?_macros has, List.dropLast, root]
  cases text? <;> rfl

theorem held_macros : MacroFile.Held reply "macros.toml" HasMacros where
  pathExists {host text?} has := by
    refine ⟨host, ?_, has⟩
    simp only [reply, FileTree.pathExists, look_macros has]
    cases text? <;> rfl
  readFile {host text} has := by
    refine ⟨host, ?_, has⟩
    simp only [reply, FileTree.readFile, look_macros has]
    rfl
  createDirectory {host text?} has := ⟨host, rfl, has⟩
  writeFile {host text?} text has := by
    refine ⟨{ host with files := { host.files with
      entries := host.files.entries.insert "/macros.toml" (.file text) } }, ?_, has.1, ?_⟩
    · simp only [reply, writeFile_macros has]
      rfl
    · exact (NameMap.find?_insert ..).trans (if_pos rfl)

end MemoryHost

end CommandShell
