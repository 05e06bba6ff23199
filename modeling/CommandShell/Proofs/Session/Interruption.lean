import CommandShell.Proofs.Session.Rollback

/-!
# Steps whose token is set

While a line runs, signals of the session get replies and somebody may set the
token of the step at any time between them.  Both are occurrences, and `Heeds`
says that the replies about the token are true at the time they are given.

A step looks at its token once more when the evaluation of its line is over, but
only if the evaluation brought no error.  `takenBack_iff_of_set` says what that
comes to: once the token is set, the step is taken back unless the evaluation ended
with an error that is neither a cancellation nor a panic.  With such an error it
is committed, cancelled or not.
-/

namespace CommandShell
namespace Session

open CommandShell.Task (Yields Leads yields_ask_iff yields_bind_iff yields_done_iff)

/-- What a line can experience while it runs: the token of its step is set, or one of
its signals gets a reply. -/
inductive Occurrence where
  | interrupt
  | reply (exchange : Exchange signals)

def Occurrence.exchange? : Occurrence → Option (Exchange signals)
  | .interrupt => none
  | .reply exchange => some exchange

def conversation (occurrences : List Occurrence) : List (Exchange signals) :=
  occurrences.filterMap Occurrence.exchange?

/-- Whether a reply is true of a token that is set or not. -/
def Truthful (isSet : Bool) : Exchange signals → Prop
  | ⟨.observe, answer⟩ => answer = isSet
  | ⟨.pause _, answer⟩ => answer = isSet
  | ⟨.await, answer⟩ => answer = isSet
  | _ => True

/-- Replies about the token are true when they are given. -/
def Heeds : (isSet : Bool) → List Occurrence → Prop
  | _, [] => True
  | _, .interrupt :: rest => Heeds true rest
  | isSet, .reply exchange :: rest => Truthful isSet exchange ∧ Heeds isSet rest

theorem conversation_append (first second : List Occurrence) :
    conversation (first ++ second) =
      conversation first ++ conversation second :=
  List.filterMap_append

theorem heeds_append_iff {isSet : Bool} {first second : List Occurrence} :
    Heeds isSet (first ++ second) ↔ Heeds isSet first ∧
      ((isSet = true ∨ .interrupt ∈ first) → Heeds true second) ∧
      ((isSet = false ∧ .interrupt ∉ first) → Heeds false second) := by
  induction first generalizing isSet with
  | nil => cases isSet <;> simp [Heeds]
  | cons occurrence rest ih =>
      cases occurrence with
      | interrupt => simp [Heeds, ih]
      | reply exchange => simp [Heeds, ih, and_assoc]

theorem observe_of_heeds {occurrences : List Occurrence} {answer : Bool}
    {rest : List (Exchange signals)} (heeds : Heeds true occurrences)
    (conversed : conversation occurrences = ⟨.observe, answer⟩ :: rest) :
    answer = true := by
  induction occurrences with
  | nil => cases conversed
  | cons occurrence others ih =>
      cases occurrence with
      | interrupt => exact ih heeds conversed
      | reply exchange =>
          obtain ⟨rfl, -⟩ := List.cons.inj conversed
          exact heeds.1

theorem yields_persistAll {changes : List (String × Option String)}
    {exchanges : List (Exchange signals)}
    (yields : Yields (persistAll changes) exchanges ()) :
    exchanges.map Sigma.fst =
      changes.map fun change => .persist change.1 change.2 := by
  induction changes generalizing exchanges with
  | nil =>
      obtain ⟨rfl, -⟩ := yields_done_iff.1 yields
      rfl
  | cons change rest ih =>
      obtain ⟨answer, later, rfl, resumed⟩ := yields_ask_iff.1 yields
      exact congrArg _ (ih resumed)

/-- A step was taken back: it ended cancelled or with a panic, the modules and
macros are as they were, and nothing was stored. -/
structure TakenBack (before after : Session)
    (result : Except ShellError (Option Value))
    (exchanges : List (Exchange signals)) : Prop where
  aborts : ∃ error, result = .error error ∧ error.isAbort = true
  registry : after.registry = before.registry
  macros : after.macros = before.macros
  storesNothing : StoresNothing exchanges

/-- A step is taken back if its result is an abort, and only then. -/
theorem takenBack_iff {line : String} {before after : Session}
    {result : Except ShellError (Option Value)}
    {exchanges : List (Exchange signals)}
    (steps : Yields (step line before) exchanges (after, result)) :
    TakenBack before after result exchanges ↔ step.abort result = true := by
  constructor
  · rintro ⟨⟨error, rfl, abort⟩, -, -, -⟩
    exact abort
  · intro abort
    cases result with
    | ok value? => cases abort
    | error error =>
        obtain ⟨restored, storesNothing⟩ := restored_of_abort steps abort
        exact ⟨⟨error, rfl, abort⟩, restored.registry, restored.macros,
          storesNothing⟩

/-- What a step with a set token comes to.  It is taken back exactly if its
evaluation did not end with an error of another sort.  If it did, the step ends
with that error, everything that it did stays, and its changes of macros are
stored. -/
theorem takenBack_iff_of_set {line : String} {before changed after : Session}
    {isSet : Bool} {during later : List Occurrence}
    {evaluated : Except Failure (Option Value)}
    {result : Except ShellError (Option Value)}
    (heeds : Heeds isSet (during ++ later))
    (evaluates : Yields (evaluate maxCallDepth line before)
      (conversation during) (changed, evaluated))
    (steps : Yields (step line before) (conversation (during ++ later))
      (after, result))
    (set : isSet = true ∨ .interrupt ∈ during) :
    (TakenBack before after result (conversation (during ++ later)) ↔
      ¬ ∃ error, evaluated = .error (.error error) ∧ error.isAbort = false) ∧
    ∀ error, evaluated = .error (.error error) → error.isAbort = false →
      result = .error error ∧ after = changed ∧
        (conversation later).map Sigma.fst =
          (MacroTable.changes before.macros changed.macros).map
            fun change => .persist change.1 change.2 := by
  have laterHeeds : Heeds true later := (heeds_append_iff.1 heeds).2.1 set
  rw [takenBack_iff steps]
  obtain ⟨during', changed', evaluated', asked, stored, split, evaluates',
    judged, settled⟩ := yields_step steps
  rw [conversation_append] at split
  obtain ⟨rfl, same⟩ := evaluates.unique evaluates' split
  cases same
  have laterEq : conversation later = asked ++ stored :=
    List.append_cancel_left split
  rcases evaluated with (error | text) | value?
  · obtain ⟨rfl, rfl⟩ := yields_verdict_error judged
    refine ⟨by simp [step.abort], ?_⟩
    rintro _ ⟨⟩ other
    cases settled with
    | aborts abort => exact absurd (abort.symm.trans other) (by decide)
    | commits commit persisted =>
        refine ⟨rfl, rfl, ?_⟩
        rw [laterEq]
        exact yields_persistAll persisted
  · obtain ⟨rfl, rfl⟩ := yields_verdict_panic judged
    exact ⟨by simp [step.abort, ShellError.isAbort], nofun⟩
  · obtain ⟨answer, rfl, rfl⟩ := yields_verdict_ok judged
    obtain rfl := observe_of_heeds laterHeeds laterEq
    exact ⟨by simp [step.abort, ShellError.isAbort, ShellError.isCancelled,
      ShellError.rootCause], nofun⟩

/-- A handler that defines a macro, cancels its own step, and ends as given. -/
def trip (ending : Handler Value) : Handler Value := do
  Handler.addMacro "x" "go"
  Handler.cancelStep
  ending

def tripped : List Occurrence :=
  [.reply ⟨.observe, false⟩, .reply ⟨.cancel, ()⟩, .interrupt]

def afterTrip (ending : Handler Value) : Session :=
  { ofHandler (trip ending) with macros := NameMap.insert ∅ "x" "go" }

/-- A value does not save a step that was cancelled. -/
theorem takenBack_of_trip :
    Heeds false (tripped ++ [.reply ⟨.observe, true⟩]) ∧
      TakenBack (ofHandler (trip (pure (.integer 1))))
        (ofHandler (trip (pure (.integer 1)))) (.error .cancelled)
        (conversation (tripped ++ [.reply ⟨.observe, true⟩])) := by
  have reads := read_ofHandler (trip (pure (.integer 1)))
  have heeds : Heeds false (tripped ++ [.reply ⟨.observe, true⟩]) :=
    ⟨rfl, trivial, rfl, trivial⟩
  have evaluates : Yields
      (evaluate maxCallDepth "go" (ofHandler (trip (pure (.integer 1)))))
      (conversation tripped)
      (afterTrip (pure (.integer 1)), .ok (some (.integer 1))) := by
    rw [maxCallDepth, evaluate_of_read 63 reads]
    delta runHandler
    exact .ask (.ask (.refl _))
  have steps : Yields (step "go" (ofHandler (trip (pure (.integer 1)))))
      (conversation (tripped ++ [.reply ⟨.observe, true⟩]))
      (ofHandler (trip (pure (.integer 1))), .error .cancelled) := by
    rw [step_of_read reads]
    delta runHandler
    exact .ask (.ask (.ask (.refl _)))
  refine ⟨heeds, ?_⟩
  refine (takenBack_iff_of_set heeds evaluates steps (.inr ?_)).1.2 ?_
  · simp [tripped]
  · rintro ⟨error, same, -⟩
    cases same

/-- An error of another sort does: the macro stays, and it is stored. -/
theorem not_takenBack_of_trip :
    Heeds false (tripped ++ [.reply ⟨.persist "x" (some "go"), .ok ()⟩]) ∧
      .interrupt ∈ tripped ∧
      Yields
        (evaluate maxCallDepth "go" (ofHandler (trip (.fail (.badUsage "no")))))
        (conversation tripped)
        (afterTrip (.fail (.badUsage "no")), .error (.error (.badUsage "no"))) ∧
      Yields (step "go" (ofHandler (trip (.fail (.badUsage "no")))))
        (conversation
          (tripped ++ [.reply ⟨.persist "x" (some "go"), .ok ()⟩]))
        (afterTrip (.fail (.badUsage "no")), .error (.badUsage "no")) ∧
      ¬ TakenBack (ofHandler (trip (.fail (.badUsage "no"))))
        (afterTrip (.fail (.badUsage "no"))) (.error (.badUsage "no"))
        (conversation
          (tripped ++ [.reply ⟨.persist "x" (some "go"), .ok ()⟩])) := by
  have reads := read_ofHandler (trip (.fail (.badUsage "no")))
  refine ⟨⟨rfl, trivial, trivial, trivial⟩, by simp [tripped], ?_, ?_, ?_⟩
  · rw [maxCallDepth, evaluate_of_read 63 reads]
    delta runHandler
    exact .ask (.ask (.refl _))
  · rw [step_of_read reads]
    delta runHandler
    exact .ask (.ask (.ask (.refl _)))
  · rintro ⟨⟨error, same, abort⟩, -, -, -⟩
    cases same
    cases abort

end Session
end CommandShell
