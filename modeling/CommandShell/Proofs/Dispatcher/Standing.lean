import CommandShell.Proofs.Dispatcher.Coherence
import Mathlib.Data.List.Induction

/-!
# What a log says about the pending line

A line is handed over at one place of a log and taken at a later one, and nothing
that concerns the pending line comes in between.  `Standing` ties a log to its slot:
the line that is pending is the one that was prepared last, unless something has
taken or discarded it, and each line that was taken was pending before.
-/

namespace CommandShell

namespace Dispatcher

/-- Whether an event changes what is pending. -/
def Event.touches : Event → Bool
  | .prepared _ | .taken .. | .finished => true
  | .interrupted | .replied _ | .ended => false

/-- Nothing changes what is pending between two places of a log. -/
def Untouched (log : List Event) (first last : Nat) : Prop :=
  ∀ place event, first < place → place < last → log[place]? = some event →
    event.touches = false

/-- A line that is prepared at one place of a log is taken at another. -/
structure Passes (log : List Event) (source target : Nat) (line : String) :
    Prop where
  before : source < target
  prepared : log[source]? = some (.prepared line)
  taken : ∃ token, log[target]? = some (.taken line token)
  untouched : Untouched log source target

variable {log events : List Event} {event other : Event}
variable {source target place first last : Nat}
variable {line : String} {token : Nat}

section Places

theorem getElem?_snoc_iff :
    (log ++ [event])[place]? = some other ↔
      log[place]? = some other ∨ place = log.length ∧ other = event := by
  rcases Nat.lt_trichotomy place log.length with inside | rfl | outside
  · rw [List.getElem?_append_left inside]
    have placeNe : place ≠ log.length := by omega
    simp [placeNe]
  · simp [eq_comm]
  · have placeNe : place ≠ log.length := by omega
    have logNone : log[place]? = none := List.getElem?_eq_none (by omega)
    have snocNone : (log ++ [event])[place]? = none :=
      List.getElem?_eq_none (by simp; omega)
    simp [placeNe, logNone, snocNone]

theorem lt_length_of_getElem? (found : log[place]? = some event) :
    place < log.length :=
  (List.getElem?_eq_some_iff.1 found).1

theorem untouched_append_iff (inside : last ≤ log.length) :
    Untouched (log ++ events) first last ↔ Untouched log first last := by
  constructor
  · intro untouched place event after before found
    refine untouched place event after before ?_
    rwa [List.getElem?_append_left (by omega)]
  · intro untouched place event after before found
    refine untouched place event after before ?_
    rwa [List.getElem?_append_left (by omega)] at found

theorem untouched_snoc_iff :
    Untouched (log ++ [event]) source (log ++ [event]).length ↔
      Untouched log source log.length ∧
        (source < log.length → event.touches = false) := by
  rw [List.length_append, List.length_singleton]
  constructor
  · intro untouched
    constructor
    · intro place other after before found
      exact untouched place other after (by omega)
        (getElem?_snoc_iff.2 (.inl found))
    · intro inside
      exact untouched log.length event inside (by omega)
        (getElem?_snoc_iff.2 (.inr ⟨rfl, rfl⟩))
  · rintro ⟨untouched, quiet⟩ place other after before found
    rcases getElem?_snoc_iff.1 found with found | ⟨rfl, rfl⟩
    · exact untouched place other after (lt_length_of_getElem? found) found
    · exact quiet after

theorem Passes.append (passes : Passes log source target line)
    (events : List Event) : Passes (log ++ events) source target line := by
  obtain ⟨before, prepared, ⟨token, taken⟩, untouched⟩ := passes
  have inside := lt_length_of_getElem? taken
  refine ⟨before, ?_, ⟨token, ?_⟩, ?_⟩
  · rwa [List.getElem?_append_left (by omega)]
  · rwa [List.getElem?_append_left inside]
  · exact (untouched_append_iff (by omega)).2 untouched

/-- The first place after another one that changes what is pending, if there is
one. -/
theorem untouched_or_first_touch (log : List Event) (source : Nat) :
    Untouched log source log.length ∨
      ∃ place event, source < place ∧ log[place]? = some event ∧
        event.touches = true ∧ Untouched log source place := by
  induction log using List.reverseRecOn with
  | nil => exact .inl fun place event _ before => absurd before (by simp)
  | append_singleton log event ih =>
      rcases ih with untouched | ⟨place, other, after, found, touches, untouched⟩
      · cases touches : event.touches with
        | false => exact .inl (untouched_snoc_iff.2 ⟨untouched, fun _ => touches⟩)
        | true =>
            by_cases inside : source < log.length
            · refine .inr ⟨log.length, event, inside, ?_, touches, ?_⟩
              · exact getElem?_snoc_iff.2 (.inr ⟨rfl, rfl⟩)
              · exact (untouched_append_iff (Nat.le_refl _)).2 untouched
            · exact .inl (untouched_snoc_iff.2
                ⟨untouched, fun inside' => absurd inside' inside⟩)
      · refine .inr ⟨place, other, after, ?_, touches, ?_⟩
        · exact getElem?_snoc_iff.2 (.inl found)
        · have inside := lt_length_of_getElem? found
          exact (untouched_append_iff (by omega)).2 untouched

end Places

/-- How a log fits the pending line of a slot and whether the slot is finished. -/
structure Standing (log : List Event) (pending : Option String)
    (finished : Bool) : Prop where
  closes : finished = true ↔ .finished ∈ log
  awaits : ∀ line, pending = some line ↔ finished = false ∧
    ∃ source, log[source]? = some (.prepared line) ∧
      Untouched log source log.length
  passes : ∀ target line token, log[target]? = some (.taken line token) →
    ∃ source, Passes log source target line

namespace Standing

variable {pending : Option String} {closed : Bool}

theorem new : Standing [] none false := by
  constructor <;> simp

theorem passes_snoc (standing : Standing log pending closed)
    (source? : ∀ line token, event = .taken line token →
      ∃ source, Passes (log ++ [event]) source log.length line) :
    ∀ target line token,
      (log ++ [event])[target]? = some (.taken line token) →
        ∃ source, Passes (log ++ [event]) source target line := by
  intro target line token found
  rcases getElem?_snoc_iff.1 found with found | ⟨rfl, taken⟩
  · obtain ⟨source, passes⟩ := standing.passes target line token found
    exact ⟨source, passes.append [event]⟩
  · exact source? line token taken.symm

theorem not_standing (touches : event.touches = true)
    (other : event ≠ .prepared line) :
    ¬ ∃ source, (log ++ [event])[source]? = some (.prepared line) ∧
      Untouched (log ++ [event]) source (log ++ [event]).length := by
  rintro ⟨source, found, untouched⟩
  rcases getElem?_snoc_iff.1 found with found | ⟨-, same⟩
  · have quiet := (untouched_snoc_iff.1 untouched).2 (lt_length_of_getElem? found)
    exact absurd (touches.symm.trans quiet) (by decide)
  · exact other same.symm

theorem quiet (standing : Standing log pending closed)
    (quiet : event.touches = false) :
    Standing (log ++ [event]) pending closed := by
  constructor
  · rw [standing.closes, List.mem_append, List.mem_singleton]
    refine ⟨.inl, fun member => member.resolve_right ?_⟩
    rintro rfl
    cases quiet
  · intro line
    rw [standing.awaits]
    refine and_congr_right fun _ => exists_congr fun source => ?_
    rw [getElem?_snoc_iff, untouched_snoc_iff]
    constructor
    · rintro ⟨found, untouched⟩
      exact ⟨.inl found, untouched, fun _ => quiet⟩
    · rintro ⟨found | ⟨-, same⟩, untouched, -⟩
      · exact ⟨found, untouched⟩
      · rw [← same] at quiet
        cases quiet
  · refine standing.passes_snoc fun line token taken => ?_
    rw [taken] at quiet
    cases quiet

theorem pending_eq_none (standing : Standing log pending true) :
    pending = none := by
  cases pending with
  | none => rfl
  | some line => cases ((standing.awaits line).1 rfl).1

theorem prepared (standing : Standing log pending closed) (line : String) :
    Standing (log ++ [.prepared line])
      (if closed then pending else some line) closed := by
  constructor
  · rw [standing.closes]
    simp
  · intro other
    cases closed with
    | true =>
        rw [if_pos rfl, standing.pending_eq_none]
        simp
    | false =>
        rw [if_neg (by decide), Option.some_inj]
        constructor
        · rintro rfl
          refine ⟨rfl, log.length, getElem?_snoc_iff.2 (.inr ⟨rfl, rfl⟩), ?_⟩
          intro place event after before
          rw [List.length_append, List.length_singleton] at before
          omega
        · rintro ⟨-, stands⟩
          by_contra lineNe
          exact not_standing rfl (by simpa using lineNe) stands
  · exact standing.passes_snoc nofun

theorem taken (standing : Standing log (some line) closed) (token : Nat) :
    Standing (log ++ [.taken line token]) none closed := by
  constructor
  · rw [standing.closes]
    simp
  · intro other
    simp only [reduceCtorEq, false_iff, not_and]
    exact fun _ => not_standing rfl nofun
  · refine standing.passes_snoc ?_
    rintro _ _ ⟨⟩
    obtain ⟨-, source, prepared, untouched⟩ := (standing.awaits line).1 rfl
    refine ⟨source, lt_length_of_getElem? prepared, ?_, ⟨token, ?_⟩, ?_⟩
    · exact getElem?_snoc_iff.2 (.inl prepared)
    · exact getElem?_snoc_iff.2 (.inr ⟨rfl, rfl⟩)
    · exact (untouched_append_iff (Nat.le_refl _)).2 untouched

theorem finished (standing : Standing log pending closed) :
    Standing (log ++ [.finished]) none true := by
  constructor
  · simp
  · simp
  · exact standing.passes_snoc nofun

theorem transition {before after : Dispatcher}
    (standing : Standing log before.slot.pending before.slot.finished)
    (happened : Transition before events after) :
    Standing (log ++ events) after.slot.pending after.slot.finished := by
  cases happened with
  | prepares line =>
      rw [prepare_slot, Slot.prepare_pending, Slot.prepare_finished]
      exact standing.prepared line
  | interrupts =>
      rw [interrupt_slot]
      exact standing.quiet rfl
  | takes _ pending =>
      rw [pending] at standing
      exact standing.taken _
  | replies _ _ sameSlot =>
      dsimp only
      rw [sameSlot]
      exact standing.quiet rfl
  | @submits _ submitted =>
      dsimp only
      rw [prepare_slot, Slot.prepare_pending, Slot.prepare_finished]
      have replied : Standing (log ++ [.replied (.submit submitted)])
          before.slot.pending before.slot.finished := standing.quiet rfl
      simpa using replied.prepared submitted
  | ends _ stays =>
      rw [endStep, stays]
      exact standing.quiet rfl
  | exits _ exit =>
      rw [endStep, exit]
      have ended : Standing (log ++ [.ended]) before.slot.pending
          before.slot.finished := standing.quiet rfl
      simpa [Slot.endStep, Slot.finish] using ended.finished
  | unwinds => exact standing.quiet rfl
  | finishes => exact standing.finished
  | _ =>
      rw [List.append_nil]
      exact standing

end Standing

end Dispatcher
end CommandShell
