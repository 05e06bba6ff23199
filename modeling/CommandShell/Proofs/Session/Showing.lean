import CommandShell.Proofs.Line.Lexing
import CommandShell.Proofs.Session.NetChange
import CommandShell.Proofs.Session.Tracing

/-!
# What a run shows

A line that is run is echoed, its handlers print values, and last comes how the line ended.
`Plays` splits a run accordingly: between the echo and what comes last lies the step that the
line makes by itself.  The display has no say in it.  As long as it does not panic it may fail
to show the echo and errors, and values too if no handler prints any, and nothing else changes.

A line that is blank does not end without a value if its step is cancelled, and then the
cancellation is reported.
-/

namespace CommandShell
namespace Session

open CommandShell.Task (Yields Alike yields_ask_iff yields_bind_iff yields_done_iff)

/-- No presentation in a conversation panics. -/
def Unbroken (exchanges : List (Exchange signals)) : Prop :=
  ∀ item delivery, (⟨.present item, delivery⟩ : Exchange signals) ∈ exchanges →
    presentationOutcome delivery = .ok ()

/-- A run that gets to its end, with the requests of the handlers in its step. -/
inductive Plays (line : String) (before : Session) : List (Exchange signals) →
    List Handler.Request → Session → Except ShellError (Option Value) → Prop
  | makes {echo : Delivery} {ran shown : List (Exchange signals)}
      {requests : List Handler.Request} {after : Session}
      {result : Except ShellError (Option Value)}
      (echoes : presentationOutcome echo = .ok ())
      (traces : Yields (traceStep line before) ran (requests, after, result))
      (discloses : Yields (disclose (after, result)) shown (after, .ok result)) :
      Plays line before (⟨.present (.echo line), echo⟩ :: (ran ++ shown)) requests after result

/-- A signal whose delivery is not heeded in a step whose handlers make these requests. -/
def Signal.Unheeded (requests : List Handler.Request) : Signal → Prop
  | .present (.value _) => requests.filterMap printed? = []
  | .present _ => True
  | _ => False

variable {line : String} {before after : Session} {exchanges others : List (Exchange signals)}
variable {requests : List Handler.Request} {result : Except ShellError (Option Value)}

section Silence

theorem presented_of_verdict {evaluated : Except Failure (Option Value)}
    (judges : Yields (verdict evaluated) exchanges result) : presented exchanges = [] := by
  rcases evaluated with (error | text) | value?
  · obtain ⟨rfl, -⟩ := yields_verdict_error judges
    rfl
  · obtain ⟨rfl, -⟩ := yields_verdict_panic judges
    rfl
  · obtain ⟨isSet, rfl, -⟩ := yields_verdict_ok judges
    rfl

theorem presented_of_persistAll {changes : List (String × Option String)}
    (persists : Yields (persistAll changes) exchanges ()) : presented exchanges = [] := by
  induction changes generalizing exchanges with
  | nil =>
      obtain ⟨rfl, -⟩ := yields_done_iff.1 persists
      rfl
  | cons change changes ih =>
      obtain ⟨answer, later, rfl, resumed⟩ := yields_ask_iff.1 persists
      have silent : presented later = [] := ih resumed
      exact silent

theorem Settles.presented {changed : Session} {stored : List (Exchange signals)}
    (settles : Settles before changed result stored after) : Session.presented stored = [] := by
  cases settles with
  | aborts => rfl
  | commits _ persists => exact presented_of_persistAll persists

/-- A step presents what its handlers print and nothing else. -/
theorem presented_of_traceStep
    (traces : Yields (traceStep line before) exchanges (requests, after, result)) :
    presented exchanges = requests.filterMap printed? := by
  obtain ⟨during, changed, evaluated, asked, stored, rfl, evaluates, judges, settles⟩ :=
    yields_traceStep traces
  rw [presented_append, presented_append, presented_of_verdict judges, settles.presented,
    (told_trace maxCallDepth line before during _ evaluates).presented, List.append_nil,
    List.append_nil]

theorem presented_of_disclose {shown : List (Exchange signals)}
    {outcome : Session × Except Failure (Except ShellError (Option Value))}
    (discloses : Yields (disclose (after, result)) shown outcome) :
    presented shown = (closing result).toList := by
  rcases yields_disclose_iff.1 discloses with ⟨silent, rfl, -⟩ | ⟨item, last, shows, rfl, -⟩
  · rw [silent]
    rfl
  · rw [shows]
    rfl

end Silence

section Plays

theorem Plays.runs (plays : Plays line before exchanges requests after result) :
    Yields (run line before) exchanges (after, .ok result) := by
  cases plays with
  | makes echoes traces discloses =>
      exact yields_run_iff_runs.2 (.makes echoes (yields_step_of_traceStep traces) discloses)

/-- If nothing panics, a run gets to its end. -/
theorem plays_of_unbroken
    {ended : Session × Except Failure (Except ShellError (Option Value))}
    (runs : Yields (run line before) exchanges ended) (unbroken : Unbroken exchanges) :
    ∃ requests after result, ended = (after, .ok result) ∧
      Plays line before exchanges requests after result := by
  cases yields_run_iff_runs.1 runs with
  | broken breaks => cases breaks.symm.trans (unbroken _ _ List.mem_cons_self)
  | @makes echo ran shown after result _ echoes steps discloses =>
      obtain ⟨requests, traces⟩ := exists_yields_traceStep steps
      have ends : ended = (after, .ok result) := by
        rcases yields_disclose_iff.1 discloses with ⟨-, -, rfl⟩ | ⟨item, last, -, rfl, rfl⟩
        · rfl
        · rw [unbroken item last (by simp)]
          rfl
      subst ends
      exact ⟨requests, after, result, rfl, .makes echoes traces discloses⟩

theorem Plays.presented (plays : Plays line before exchanges requests after result) :
    presented exchanges =
      .echo line :: (requests.filterMap printed? ++ (closing result).toList) := by
  cases plays with
  | @makes echo ran shown _ _ _ _ traces discloses =>
      rw [← presented_of_traceStep traces, ← presented_of_disclose discloses, ← presented_append]
      rfl

/-- A step can be made as a part of a run. -/
theorem plays_of_traceStep {echo last : Delivery} (echoes : presentationOutcome echo = .ok ())
    (closes : presentationOutcome last = .ok ())
    (traces : Yields (traceStep line before) exchanges (requests, after, result)) :
    Plays line before (⟨.present (.echo line), echo⟩ :: (exchanges ++
      (closing result).toList.map fun item => ⟨.present item, last⟩)) requests after result := by
  refine .makes echoes traces (yields_disclose_iff.2 ?_)
  cases closing result with
  | none => exact .inl ⟨rfl, rfl, rfl⟩
  | some item => exact .inr ⟨item, last, rfl, rfl, by rw [closes]; rfl⟩

/-- The deliveries in a step are those of what its handlers print, and they are heeded. -/
theorem not_unheeded_of_traceStep
    (traces : Yields (traceStep line before) exchanges (requests, after, result)) :
    ∀ exchange ∈ exchanges, ¬ Signal.Unheeded requests exchange.1 := by
  rintro ⟨signal, answer⟩ listed unheeded
  cases signal with
  | present item =>
      have shown : item ∈ requests.filterMap printed? :=
        presented_of_traceStep traces ▸ List.mem_filterMap.2 ⟨_, listed, rfl⟩
      obtain ⟨request, -, prints⟩ := List.mem_filterMap.1 shown
      cases request with
      | print value =>
          cases prints
          exact List.ne_nil_of_mem shown unheeded
      | _ => cases prints
  | _ => exact unheeded

theorem exists_delivery_of_alike {unheard : Signal → Prop} {item : Presentation}
    {delivery : Delivery} {other : Exchange signals}
    (same : (⟨.present item, delivery⟩ : Exchange signals) = other ∨
      Signal.present item = other.1 ∧ unheard (.present item)) :
    ∃ otherDelivery, other = ⟨.present item, otherDelivery⟩ := by
  obtain ⟨signal, answer⟩ := other
  obtain rfl : .present item = signal := same.elim (congrArg Sigma.fst) And.left
  exact ⟨answer, rfl⟩

theorem yields_disclose_of_alike {unheard : Signal → Prop}
    (discloses : Yields (disclose (after, result)) exchanges (after, .ok result))
    (alike : Alike unheard exchanges others) (unbroken : Unbroken others) :
    Yields (disclose (after, result)) others (after, .ok result) := by
  rcases yields_disclose_iff.1 discloses with ⟨silent, rfl, -⟩ | ⟨item, last, shows, rfl, -⟩
  · cases alike
    exact discloses
  · obtain ⟨other, _, same, ⟨⟩, rfl⟩ := List.forall₂_cons_left_iff.1 alike
    obtain ⟨delivery, rfl⟩ := exists_delivery_of_alike same
    refine yields_disclose_iff.2 (.inr ⟨item, delivery, shows, rfl, ?_⟩)
    rw [unbroken item delivery List.mem_cons_self]
    rfl

/-- Other deliveries that nobody heeds make no difference to a run. -/
theorem Plays.of_alike (plays : Plays line before exchanges requests after result)
    (alike : Alike (Signal.Unheeded requests) exchanges others) (unbroken : Unbroken others) :
    Plays line before others requests after result := by
  cases plays with
  | @makes echo ran shown _ _ _ echoes traces discloses =>
      obtain ⟨other, rest, same, alikeRest, rfl⟩ := List.forall₂_cons_left_iff.1 alike
      obtain ⟨delivery, rfl⟩ := exists_delivery_of_alike same
      obtain ⟨ranOthers, shownOthers, rfl, alikeRan, alikeShown⟩ := Alike.of_append alikeRest
      obtain rfl := alikeRan.eq_of_heard (not_unheeded_of_traceStep traces)
      refine .makes (unbroken _ delivery List.mem_cons_self) traces ?_
      exact yields_disclose_of_alike discloses alikeShown fun item delivery listed =>
        unbroken item delivery (by simp [listed])

end Plays

section Blank

theorem read_of_isBlankText (blank : isBlankText line = true) : before.read line = .ok none := by
  refine bind_eq_ok_iff.2 ⟨[], tokenize_of_isBlankText blank, ?_⟩
  exact bind_eq_ok_iff.2 ⟨[], rfl, rfl⟩

theorem trace_of_blank (levels : Nat) (blank : before.read line = .ok none) :
    trace (levels + 1) line before = (do
      if ← cancelled then
        return ([], before, .error (.error .cancelled))
      return ([], before, .ok none)) := by
  rw [trace]
  generalize before.read line = invocation? at blank ⊢
  subst blank
  rfl

/-- A step of a blank line ends cancelled if its token is set at one of its two looks at it, and
otherwise without a value. -/
theorem traceStep_of_blank (blank : before.read line = .ok none)
    (traces : Yields (traceStep line before) exchanges (requests, after, result)) :
    requests = [] ∧
      (exchanges = [⟨.observe, true⟩] ∧ result = .error .cancelled ∨
        exchanges = [⟨.observe, false⟩, ⟨.observe, true⟩] ∧ result = .error .cancelled ∨
        exchanges = [⟨.observe, false⟩, ⟨.observe, false⟩] ∧ result = .ok none) := by
  obtain ⟨during, changed, evaluated, asked, stored, rfl, evaluates, judges, settles⟩ :=
    yields_traceStep traces
  rw [maxCallDepth, trace_of_blank 63 blank] at evaluates
  obtain ⟨isCancelled, later, rfl, resumed⟩ := yields_ask_iff.1 evaluates
  cases isCancelled with
  | true =>
      obtain ⟨rfl, ⟨⟩⟩ := yields_done_iff.1 resumed
      obtain ⟨rfl, rfl⟩ := yields_verdict_error judges
      cases settles with
      | aborts => exact ⟨rfl, .inl ⟨rfl, rfl⟩⟩
      | commits commit => cases commit
  | false =>
      obtain ⟨rfl, ⟨⟩⟩ := yields_done_iff.1 resumed
      obtain ⟨isSet, rfl, rfl⟩ := yields_verdict_ok judges
      cases isSet with
      | true =>
          cases settles with
          | aborts => exact ⟨rfl, .inr (.inl ⟨rfl, rfl⟩)⟩
          | commits commit => cases commit
      | false =>
          cases settles with
          | aborts abort => cases abort
          | commits _ persists =>
              rw [MacroTable.changes_self] at persists
              obtain ⟨rfl, -⟩ := yields_done_iff.1 persists
              exact ⟨rfl, .inr (.inr ⟨rfl, rfl⟩)⟩

end Blank

/-- What running a line shows, and how little depends on it. -/
structure ShowsFaithfully (line : String) (before : Session) : Prop where
  plays : ∀ exchanges ended, Yields (run line before) exchanges ended → Unbroken exchanges →
    ∃ requests after result, ended = (after, .ok result) ∧
      Plays line before exchanges requests after result
  /-- The echo comes first, then what handlers print, and then how the line ended. -/
  shows : ∀ exchanges requests after result,
    Plays line before exchanges requests after result →
      presented exchanges = .echo line :: (requests.filterMap printed? ++ (closing result).toList)
  /-- A run contains a step that does the same by itself. -/
  steps : ∀ exchanges requests after result,
    Plays line before exchanges requests after result →
      Yields (run line before) exchanges (after, .ok result) ∧
      ∃ echo ran shown, exchanges = ⟨.present (.echo line), echo⟩ :: (ran ++ shown) ∧
        Yields (step line before) ran (after, result) ∧ persisted ran = persisted exchanges
  /-- A step does the same as a part of a run. -/
  executes : ∀ ran after result, Yields (step line before) ran (after, result) →
    ∀ echo last, presentationOutcome echo = .ok () → presentationOutcome last = .ok () →
      ∃ exchanges requests, exchanges = ⟨.present (.echo line), echo⟩ ::
          (ran ++ (closing result).toList.map fun item => ⟨.present item, last⟩) ∧
        Plays line before exchanges requests after result ∧ persisted exchanges = persisted ran
  whitespace : isBlankText line = true → before.read line = .ok none
  /-- A line without a command ends without a value, unless its step is cancelled. -/
  blank : before.read line = .ok none → ∀ exchanges requests after result,
    Plays line before exchanges requests after result →
      ((⟨.observe, true⟩ : Exchange signals) ∉ exchanges →
        result = .ok none ∧ presented exchanges = [.echo line]) ∧
      ((⟨.observe, true⟩ : Exchange signals) ∈ exchanges →
        result = .error .cancelled ∧ presented exchanges = [.echo line, .report .cancelled])
  /-- The echo and errors may be delivered otherwise, and values too if handlers print none. -/
  redelivers : ∀ exchanges others requests after result,
    Plays line before exchanges requests after result →
    Alike (Signal.Unheeded requests) exchanges others → Unbroken others →
      Plays line before others requests after result ∧ persisted others = persisted exchanges

theorem showsFaithfully (line : String) (before : Session) : ShowsFaithfully line before where
  plays exchanges ended := plays_of_unbroken
  shows exchanges requests after result := Plays.presented
  steps exchanges requests after result plays := by
    refine ⟨plays.runs, ?_⟩
    have stored := persisted_run plays.runs
    cases plays with
    | @makes echo ran shown _ _ _ _ traces =>
        have steps := yields_step_of_traceStep traces
        exact ⟨echo, ran, shown, rfl, steps, (persisted_step steps).trans stored.symm⟩
  executes ran after result steps echo last echoes closes := by
    obtain ⟨requests, traces⟩ := exists_yields_traceStep steps
    have plays := plays_of_traceStep echoes closes traces
    exact ⟨_, requests, rfl, plays, (persisted_run plays.runs).trans (persisted_step steps).symm⟩
  whitespace := read_of_isBlankText
  blank blank exchanges requests after result plays := by
    have shown := plays.presented
    cases plays with
    | @makes echo ran _ _ _ _ _ traces discloses =>
        obtain ⟨rfl, ⟨rfl, rfl⟩ | ⟨rfl, rfl⟩ | ⟨rfl, rfl⟩⟩ := traceStep_of_blank blank traces
        · exact ⟨fun unset => absurd (by simp) unset, fun _ => ⟨rfl, shown⟩⟩
        · exact ⟨fun unset => absurd (by simp) unset, fun _ => ⟨rfl, shown⟩⟩
        · rcases yields_disclose_iff.1 discloses with ⟨-, rfl, -⟩ | ⟨_, _, ⟨⟩, -⟩
          refine ⟨fun _ => ⟨rfl, shown⟩, fun isSet => ?_⟩
          rcases List.mem_cons.1 isSet with ⟨⟨⟩⟩ | isSet
          simp only [List.append_nil, List.mem_cons, List.not_mem_nil, or_false, or_self] at isSet
          cases isSet
  redelivers exchanges others requests after result plays alike unbroken := by
    have replays := plays.of_alike alike unbroken
    exact ⟨replays, (persisted_run replays.runs).trans (persisted_run plays.runs).symm⟩

/-- An empty line whose step is cancelled shows more than the echo. -/
theorem reports_cancelled_blank : ∃ start, Session.new ∅ = .ok start ∧
    start.read "" = .ok none ∧
    Plays "" start [⟨.present (.echo ""), .shown⟩, ⟨.observe, true⟩,
        ⟨.present (.report .cancelled), .shown⟩]
      [] (rollBack start start) (.error .cancelled) ∧
    presented [⟨.present (.echo ""), .shown⟩, ⟨.observe, true⟩,
      ⟨.present (.report .cancelled), .shown⟩] ≠ [.echo ""] := by
  obtain ⟨start, created⟩ : ∃ start, Session.new ∅ = .ok start := ⟨_, rfl⟩
  have traces : Yields (traceStep "" start) [⟨.observe, true⟩]
      ([], rollBack start start, .error .cancelled) := .ask (.refl _)
  have discloses : Yields (disclose (rollBack start start, .error .cancelled))
      [⟨.present (.report .cancelled), .shown⟩]
      (rollBack start start, .ok (.error .cancelled)) := .ask (.refl _)
  have plays := Plays.makes (show presentationOutcome .shown = .ok () from rfl) traces discloses
  exact ⟨start, created, rfl, plays, nofun⟩

end Session
end CommandShell
