import CommandShell.Proofs.Session.Rollback

/-!
# The requests of a step

`trace` evaluates a line and keeps the requests that its handlers make, in order, with those
of nested calls in their places; `traceStep` does the same for a step.  Without the requests
they are the evaluation and the step themselves (`erase_trace`, `erase_traceStep`), so every
conversation of a step has a trace.

A trace tells what the surroundings and the session notice of the handlers (`told_trace`):
the values that are presented are those that handlers print, and an exit is requested
afterwards if it was before or a handler requested it.
-/

namespace CommandShell
namespace Session

open CommandShell.Task (Yields yields_ask_iff yields_bind_iff yields_done_iff yields_map_iff)

/-- The requests that handlers made, in order, and what came of it. -/
abbrev Traced (α : Type) := List Handler.Request × Outcome α

section Trace

/-- Reply to a request and trace it.  The requests of a line that is called follow the call. -/
def traceReply (trace : String → Session → Task signals (Traced (Option Value)))
    (session : Session) : (request : Handler.Request) → Task signals (Traced request.Reply)
  | .call line => do
      let (requests, called) ← trace line session
      let replied ← reply (fun _ _ => pure called) session (.call line)
      return (.call line :: requests, replied)
  | request => do
      let replied ← reply (fun line session => Prod.snd <$> trace line session) session request
      return ([request], replied)

def traceHandler (trace : String → Session → Task signals (Traced (Option Value)))
    (session : Session) :
    Task Handler.requests (Except Failure Value) → Task signals (Traced Value)
  | .done result => .done ([], session, result)
  | .ask request resume => do
      match ← traceReply trace session request with
      | (requests, changed, .ok answer) => do
          let (later, outcome) ← traceHandler trace changed (resume answer)
          return (requests ++ later, outcome)
      | (requests, changed, .error failure) => return (requests, changed, .error failure)

/-- Evaluate a line with the given number of call levels left and trace its handlers. -/
def trace : (levels : Nat) → String → Session → Task signals (Traced (Option Value))
  | 0, _, session =>
      .done ([], session, .error (.error (.callDepthExceeded maxCallDepth)))
  | levels + 1, line, session => do
      if ← cancelled then
        return ([], session, .error (.error .cancelled))
      match session.read line with
      | .error error => return ([], session, .error (.error error))
      | .ok none => return ([], session, .ok none)
      | .ok (some invocation) =>
          let handler := invocation.command.handler invocation.owner.info
            invocation.bundle
          match ← traceHandler (trace levels) session handler with
          | (requests, changed, .ok value) =>
              return (requests, changed, checkResult invocation.command value)
          | (requests, changed, .error failure) =>
              return (requests, changed, .error failure)

variable {tracing : String → Session → Task signals (Traced (Option Value))}

theorem erase_traceReply (session : Session) (request : Handler.Request) :
    Prod.snd <$> traceReply tracing session request =
      reply (fun line session => Prod.snd <$> tracing line session) session request := by
  cases request with
  | call line =>
      simp only [traceReply, reply, map_bind, map_pure, bind_pure, bind_map_left]
      rfl
  | _ => simp only [traceReply, map_bind, map_pure, bind_pure]

theorem erase_traceHandler (session : Session)
    (handler : Task Handler.requests (Except Failure Value)) :
    Prod.snd <$> traceHandler tracing session handler =
      runHandler (fun line session => Prod.snd <$> tracing line session) session handler := by
  induction handler generalizing session with
  | done result => rfl
  | ask request resume ih =>
      have erased : Prod.snd <$> traceReply tracing session request =
          reply (fun line session => Prod.snd <$> tracing line session) session request :=
        erase_traceReply session request
      rw [traceHandler, runHandler, map_bind]
      refine Eq.trans ?_ (congrArg (· >>= _) erased)
      rw [bind_map_left]
      refine bind_congr fun traced => ?_
      obtain ⟨requests, changed, failure | answer⟩ := traced
      · rfl
      · simp only [map_bind, map_pure]
        exact ih answer changed

/-- Tracing a line is evaluating it. -/
theorem erase_trace (levels : Nat) (line : String) (session : Session) :
    Prod.snd <$> trace levels line session = evaluate levels line session := by
  induction levels generalizing line session with
  | zero => rfl
  | succ levels ih =>
      have erased : (fun line session => Prod.snd <$> trace levels line session) =
          evaluate levels := funext fun line => funext fun session => ih line session
      rw [trace, evaluate, map_bind]
      refine bind_congr fun isCancelled => ?_
      cases isCancelled with
      | true => rfl
      | false =>
          simp only [Bool.false_eq_true, if_false]
          cases session.read line with
          | error error => rfl
          | ok invocation? =>
              cases invocation? with
              | none => rfl
              | some invocation =>
                  dsimp only
                  rw [← erased, ← erase_traceHandler, map_bind, bind_map_left]
                  refine bind_congr fun traced => ?_
                  obtain ⟨requests, changed, failure | value⟩ := traced <;> rfl

/-- Make a step and trace the handlers in it. -/
def traceStep (line : String) (before : Session) :
    Task signals (List Handler.Request × Session × Except ShellError (Option Value)) := do
  let (requests, outcome) ← trace maxCallDepth line before
  return (requests, ← conclude before outcome)

/-- Tracing a step is making it. -/
theorem erase_traceStep (line : String) (before : Session) :
    Prod.snd <$> traceStep line before = step line before := by
  rw [step_eq, ← erase_trace, traceStep, map_bind, bind_map_left]
  refine bind_congr fun traced => ?_
  simp only [map_bind, map_pure, bind_pure]

variable {line : String} {before after : Session} {exchanges : List (Exchange signals)}
variable {requests : List Handler.Request} {result : Except ShellError (Option Value)}

/-- A line for which no handler runs has no trace and leaves the session; another one has the trace
of its handler. -/
theorem yields_trace_succ {levels : Nat} {session : Session} {traced : Traced (Option Value)}
    (traces : Yields (trace (levels + 1) line session) exchanges traced) :
    ∃ answer later result, exchanges = ⟨.observe, answer⟩ :: later ∧
      (later = [] ∧ traced = ([], session, result) ∨
        ∃ invocation requests changed handled, session.read line = .ok (some invocation) ∧
          Yields (traceHandler (trace levels) session (invocation.command.handler
            invocation.owner.info invocation.bundle)) later (requests, changed, handled) ∧
          traced = (requests, changed, result)) := by
  obtain ⟨isCancelled, later, rfl, resumed⟩ := yields_ask_iff.1 traces
  cases isCancelled with
  | true =>
      obtain ⟨rfl, rfl⟩ := yields_done_iff.1 resumed
      exact ⟨_, _, _, rfl, .inl ⟨rfl, rfl⟩⟩
  | false =>
      change Yields (match session.read line with
        | .error error => _
        | .ok none => _
        | .ok (some invocation) => _) later traced at resumed
      cases reads : session.read line with
      | error error =>
          rw [reads] at resumed
          obtain ⟨rfl, rfl⟩ := yields_done_iff.1 resumed
          exact ⟨_, _, _, rfl, .inl ⟨rfl, rfl⟩⟩
      | ok invocation? =>
          rw [reads] at resumed
          cases invocation? with
          | none =>
              obtain ⟨rfl, rfl⟩ := yields_done_iff.1 resumed
              exact ⟨_, _, _, rfl, .inl ⟨rfl, rfl⟩⟩
          | some invocation =>
              obtain ⟨during, ⟨requests, changed, failure | value⟩, none, rfl, handles, ended⟩ :=
                yields_bind_iff.1 resumed
              all_goals
                obtain ⟨rfl, rfl⟩ := yields_done_iff.1 ended
                rw [List.append_nil]
                exact ⟨_, _, _, rfl, .inr ⟨invocation, _, _, _, rfl, handles, rfl⟩⟩

/-- Every step has a trace. -/
theorem exists_yields_traceStep (steps : Yields (step line before) exchanges (after, result)) :
    ∃ requests, Yields (traceStep line before) exchanges (requests, after, result) := by
  rw [← erase_traceStep] at steps
  obtain ⟨⟨requests, _⟩, traces, rfl⟩ := yields_map_iff.1 steps
  exact ⟨requests, traces⟩

theorem yields_step_of_traceStep
    (traces : Yields (traceStep line before) exchanges (requests, after, result)) :
    Yields (step line before) exchanges (after, result) := by
  rw [← erase_traceStep]
  exact yields_map_iff.2 ⟨_, traces, rfl⟩

/-- What happens in a step whose handlers are traced. -/
theorem yields_traceStep
    (traces : Yields (traceStep line before) exchanges (requests, after, result)) :
    ∃ during changed evaluated asked stored, exchanges = during ++ (asked ++ stored) ∧
      Yields (trace maxCallDepth line before) during (requests, changed, evaluated) ∧
      Yields (verdict evaluated) asked result ∧
      Settles before changed result stored after := by
  obtain ⟨during, ⟨_, changed, evaluated⟩, later, rfl, evaluates, rest⟩ := yields_bind_iff.1 traces
  obtain ⟨concluded, _, none, rfl, concludes, ended⟩ := yields_bind_iff.1 rest
  obtain ⟨rfl, ⟨⟩⟩ := yields_done_iff.1 ended
  obtain ⟨asked, stored, rfl, judges, settles⟩ := yields_conclude concludes
  exact ⟨during, changed, evaluated, asked, stored, by rw [List.append_nil], evaluates, judges,
    settles⟩

end Trace

section Tells

/-- What a signal presents, if it presents something. -/
def Signal.item? : Signal → Option Presentation
  | .present item => some item
  | _ => none

def presented (exchanges : List (Exchange signals)) : List Presentation :=
  exchanges.filterMap fun exchange => Signal.item? exchange.1

/-- What a request presents, if it prints something. -/
def printed? : Handler.Request → Option Presentation
  | .print value => some (.value value)
  | _ => none

/-- What the surroundings and the session notice of the requests along a conversation. -/
structure Tells {α : Type} (session : Session) (exchanges : List (Exchange signals))
    (traced : Traced α) : Prop where
  presented : presented exchanges = traced.1.filterMap printed?
  exit : traced.2.1.exitRequested = true ↔
    session.exitRequested = true ∨ .requestExit ∈ traced.1

variable {α β : Type} {session changed : Session} {first second : List (Exchange signals)}
variable {requests later : List Handler.Request}

theorem presented_append (first second : List (Exchange signals)) :
    Session.presented (first ++ second) = Session.presented first ++ Session.presented second :=
  List.filterMap_append

theorem tells_nil (session : Session) (result : Except Failure α) :
    Tells session [] ([], session, result) :=
  ⟨rfl, by simp⟩

theorem Tells.congr {result : Except Failure α} {other : Except Failure β}
    (tells : Tells session first (requests, changed, result)) :
    Tells session first (requests, changed, other) :=
  ⟨tells.presented, tells.exit⟩

theorem Tells.append {result : Except Failure α} {outcome : Outcome β}
    (tells : Tells session first (requests, changed, result))
    (laterTells : Tells changed second (later, outcome)) :
    Tells session (first ++ second) (requests ++ later, outcome) where
  presented := by
    rw [presented_append, tells.presented, laterTells.presented, List.filterMap_append]
  exit := by
    rw [laterTells.exit, tells.exit, List.mem_append, or_assoc]

theorem exitRequested_register {module : Module}
    (registered : session.register module = .ok changed) :
    changed.exitRequested = session.exitRequested := by
  obtain ⟨_, -, ⟨⟩⟩ := bind_eq_ok_iff.1 registered
  rfl

theorem exitRequested_registerAll (modules : List Module) (session : Session) :
    (session.registerAll modules).1.exitRequested = session.exitRequested := by
  induction modules generalizing session with
  | nil => rfl
  | cons module modules ih =>
      unfold registerAll
      cases registered : session.register module with
      | error error => rfl
      | ok extended => exact (ih extended).trans (exitRequested_register registered)

theorem exitRequested_loadLibrary (session : Session) (library : String) :
    (session.loadLibrary library).1.exitRequested = session.exitRequested := by
  unfold loadLibrary
  cases session.catalog.instantiate library with
  | error error => rfl
  | ok modules =>
      dsimp only
      split
      · rfl
      · exact exitRequested_registerAll modules session

theorem exitRequested_loadModule {library name : String}
    (loaded : session.loadModule library name = .ok changed) :
    changed.exitRequested = session.exitRequested := by
  obtain ⟨modules, -, registered⟩ := bind_eq_ok_iff.1 loaded
  cases found : modules.find? fun module => module.name == name with
  | none => simp [found] at registered
  | some module =>
      rw [found] at registered
      exact exitRequested_register registered

theorem exitRequested_unloadModule {name : String}
    (unloaded : session.unloadModule name = .ok changed) :
    changed.exitRequested = session.exitRequested := by
  unfold unloadModule at unloaded
  split at unloaded
  · cases unloaded
  · obtain ⟨_, -, ⟨⟩⟩ := bind_eq_ok_iff.1 unloaded
    rfl

/-- Nothing but a print presents anything, and nothing but a request for the exit requests it. -/
theorem ensures_reply (evaluate : String → Session → Task signals (Outcome (Option Value)))
    (session : Session) (request : Handler.Request) (noPrint : printed? request = none)
    (noCall : ∀ line, request ≠ .call line) (noExit : request ≠ .requestExit) :
    (reply evaluate session request).Ensures (fun signal => Signal.item? signal = none)
      (fun outcome => outcome.1.exitRequested = session.exitRequested) := by
  cases request with
  | addMacro name body | editMacro name body | deleteMacro name =>
      rw [reply]
      split
      · next replied =>
          obtain ⟨_, -, ⟨⟩⟩ := bind_eq_ok_iff.1 replied
          exact rfl
      · exact rfl
  | setMacros macros => exact rfl
  | listMacros => exact rfl
  | listModules => exact rfl
  | loadLibrary library => exact exitRequested_loadLibrary session library
  | loadModule library name =>
      rw [reply]
      split
      · next loaded => exact exitRequested_loadModule loaded
      · exact rfl
  | unloadModule name =>
      rw [reply]
      split
      · next unloaded => exact exitRequested_unloadModule unloaded
      · exact rfl
  | blankImage width height =>
      rw [reply]
      split
      · next created =>
          obtain ⟨_, -, ⟨⟩⟩ := bind_eq_ok_iff.1 created
          exact rfl
      · exact rfl
  | print value => cases noPrint
  | call line => exact absurd rfl (noCall line)
  | requestExit => exact absurd rfl noExit
  | checkpoint => exact ⟨rfl, fun _ => rfl⟩
  | sleep milliseconds => exact ⟨rfl, fun _ => rfl⟩
  | awaitRelease => exact ⟨rfl, fun _ => rfl⟩
  | cancelStep => exact ⟨rfl, fun _ => rfl⟩
  | submitLine line => exact ⟨rfl, fun _ => rfl⟩

/-- Every conversation of a traced task is told by its trace. -/
def Told (tracing : String → Session → Task signals (Traced (Option Value))) : Prop :=
  ∀ line session exchanges traced, Yields (tracing line session) exchanges traced →
    Tells session exchanges traced

variable {tracing : String → Session → Task signals (Traced (Option Value))}
variable {exchanges : List (Exchange signals)}

theorem tells_singleton {request : Handler.Request} {replied : Outcome request.Reply}
    (noPrint : printed? request = none) (noCall : ∀ line, request ≠ .call line)
    (noExit : request ≠ .requestExit)
    (replies : Yields (reply (fun line session => Prod.snd <$> tracing line session) session
      request) exchanges replied) :
    Tells session exchanges ([request], replied) := by
  obtain ⟨silent, kept⟩ :=
    (ensures_reply _ session request noPrint noCall noExit).of_yields replies
  constructor
  · rw [Session.presented, List.filterMap_eq_nil_iff.2 silent, List.filterMap_cons, noPrint]
    rfl
  · rw [kept]
    exact ⟨.inl, fun requested => requested.resolve_right fun listed =>
      noExit (List.mem_singleton.1 listed).symm⟩

theorem tells_traceReply (told : Told tracing) {request : Handler.Request}
    {traced : Traced request.Reply}
    (yields : Yields (traceReply tracing session request) exchanges traced) :
    Tells session exchanges traced := by
  cases request with
  | call line =>
      obtain ⟨first, ⟨requests, called⟩, second, rfl, traces, rest⟩ := yields_bind_iff.1 yields
      have tells := told line session first _ traces
      obtain ⟨changed, (error | text) | value?⟩ := called
      all_goals
        obtain ⟨rfl, rfl⟩ := yields_done_iff.1 rest
        rw [List.append_nil]
        refine ⟨tells.presented, tells.exit.trans ?_⟩
        simp
  | print value =>
      obtain ⟨first, replied, second, rfl, replies, rest⟩ := yields_bind_iff.1 yields
      obtain ⟨rfl, rfl⟩ := yields_done_iff.1 rest
      obtain ⟨delivery, later, rfl, resumed⟩ := yields_ask_iff.1 replies
      cases delivery <;>
      · obtain ⟨rfl, rfl⟩ := yields_done_iff.1 resumed
        exact ⟨rfl, by simp⟩
  | requestExit =>
      obtain ⟨first, replied, second, rfl, replies, rest⟩ := yields_bind_iff.1 yields
      obtain ⟨rfl, rfl⟩ := yields_done_iff.1 rest
      obtain ⟨rfl, rfl⟩ := yields_done_iff.1 replies
      exact ⟨rfl, by simp [requestExit]⟩
  | _ =>
      obtain ⟨first, replied, second, rfl, replies, rest⟩ := yields_bind_iff.1 yields
      obtain ⟨rfl, rfl⟩ := yields_done_iff.1 rest
      rw [List.append_nil]
      exact tells_singleton rfl nofun nofun replies

theorem tells_traceHandler (told : Told tracing)
    {handler : Task Handler.requests (Except Failure Value)} {traced : Traced Value}
    (yields : Yields (traceHandler tracing session handler) exchanges traced) :
    Tells session exchanges traced := by
  induction handler generalizing session exchanges traced with
  | done result =>
      obtain ⟨rfl, rfl⟩ := yields_done_iff.1 yields
      exact tells_nil session result
  | ask request resume ih =>
      rw [traceHandler] at yields
      obtain ⟨first, ⟨requests, changed, failure | answer⟩, rest, rfl, replies, resumed⟩ :=
        yields_bind_iff.1 yields
      · obtain ⟨rfl, rfl⟩ := yields_done_iff.1 resumed
        rw [List.append_nil]
        exact (tells_traceReply told replies).congr
      · obtain ⟨second, ⟨later, outcome⟩, none, rfl, handles, ended⟩ :=
          yields_bind_iff.1 resumed
        obtain ⟨rfl, rfl⟩ := yields_done_iff.1 ended
        rw [List.append_nil]
        exact (tells_traceReply told replies).append (ih answer handles)

/-- The trace of a line tells what the surroundings and the session notice of its handlers.  The
induction is on the levels of calls that are left. -/
theorem told_trace (levels : Nat) : Told (trace levels) := by
  induction levels with
  | zero =>
      rintro line session exchanges traced yields
      obtain ⟨rfl, rfl⟩ := yields_done_iff.1 yields
      exact tells_nil session _
  | succ levels ih =>
      rintro line session exchanges traced yields
      obtain ⟨answer, later, result, rfl, traced⟩ := yields_trace_succ yields
      suffices tells : Tells session later _ from ⟨tells.presented, tells.exit⟩
      rcases traced with ⟨rfl, rfl⟩ | ⟨invocation, requests, changed, handled, -, handles, rfl⟩
      · exact tells_nil session result
      · exact (tells_traceHandler ih handles).congr

end Tells

end Session
end CommandShell
