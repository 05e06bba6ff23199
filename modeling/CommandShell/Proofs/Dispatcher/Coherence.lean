import CommandShell.Proofs.Dispatcher.History

/-!
# Coherence of slot and worker

The slot repeats itself: its activity can be read off the pending line and the
current token.  A slot in which the two agree is `Sound`.  Each operation on slots
keeps it sound, but two of them only as long as the slot is not finished, and
whether it is shows in what the worker does.  `Coherent` therefore says of a
dispatcher both that its slot is sound and that its worker agrees with the slot,
and every transition keeps that.
-/

namespace CommandShell

/-- The activity that goes with a pending line and a current token. -/
def Activity.fitting (pending : Option String) (current : Option Nat) : Activity :=
  if current.isSome then .executing
  else if pending.isSome then .primed
  else .idle

namespace Slot

/-- The activity of a slot tells what is pending and what runs, and nothing is
left in a finished slot. -/
structure Sound (slot : Slot) : Prop where
  executing : slot.activity = .executing ↔ slot.current.isSome = true
  primed : slot.activity = .primed ↔
    slot.pending.isSome = true ∧ slot.current = none
  idle : slot.activity = .idle ↔ slot.pending = none ∧ slot.current = none
  finished : slot.finished = true →
    slot.activity = .idle ∧ slot.pending = none ∧ slot.current = none

theorem sound_iff {slot : Slot} :
    slot.Sound ↔ slot.activity = .fitting slot.pending slot.current ∧
      (slot.finished = true → slot.pending = none ∧ slot.current = none) := by
  constructor
  · rintro ⟨executing, primed, idle, finished⟩
    refine ⟨?_, fun stopped => (finished stopped).2⟩
    unfold Activity.fitting
    split
    · next running => exact executing.2 running
    · next resting =>
        have currentEq := Option.not_isSome_iff_eq_none.1 resting
        split
        · next waiting => exact primed.2 ⟨waiting, currentEq⟩
        · next empty =>
            exact idle.2 ⟨Option.not_isSome_iff_eq_none.1 empty, currentEq⟩
  · rintro ⟨activity, finished⟩
    constructor
    all_goals
      rw [activity]
      cases pendingEq : slot.pending <;> cases currentEq : slot.current <;>
        simp_all [Activity.fitting]

theorem sound_empty : Sound {} :=
  sound_iff.2 ⟨rfl, fun _ => ⟨rfl, rfl⟩⟩

namespace Sound

variable {slot : Slot}

theorem prepare (sound : slot.Sound) (line : String) :
    (slot.prepare line).Sound := by
  obtain ⟨activity, finished⟩ := sound_iff.1 sound
  unfold Slot.prepare
  split
  · exact sound
  · next open_ =>
      refine sound_iff.2 ⟨?_, fun stopped => absurd stopped open_⟩
      rw [activity]
      cases slot.pending <;> cases slot.current <;> rfl

theorem start (unfinished : slot.finished = false) (token : Nat) :
    (slot.start token).Sound :=
  sound_iff.2 ⟨rfl, fun stopped => absurd (unfinished.symm.trans stopped) (by decide)⟩

theorem finish (slot : Slot) : slot.finish.Sound :=
  sound_iff.2 ⟨rfl, fun _ => ⟨rfl, rfl⟩⟩

theorem endStep (unfinished : slot.finished = false) (exit : Bool) :
    (slot.endStep exit).Sound := by
  cases exit with
  | true => exact finish _
  | false =>
      refine sound_iff.2 ⟨?_, fun stopped =>
        absurd (unfinished.symm.trans stopped) (by decide)⟩
      cases pendingEq : slot.pending <;>
        simp [Slot.endStep, Activity.fitting, pendingEq]

theorem requestShutdown (sound : slot.Sound) : slot.requestShutdown.Sound :=
  ⟨sound.executing, sound.primed, sound.idle, sound.finished⟩

/-- What waiters wait for is that the slot is idle. -/
theorem settled_iff (sound : slot.Sound) :
    slot.settled = true ↔ slot.activity = .idle := by
  unfold Slot.settled
  rw [Bool.or_eq_true, Bool.and_eq_true, beq_iff_eq, Option.isNone_iff_eq_none]
  constructor
  · rintro (stopped | ⟨resting, -⟩)
    · exact (sound.finished stopped).1
    · exact resting
  · intro resting
    exact .inr ⟨resting, (sound.idle.1 resting).1⟩

end Sound

@[simp]
theorem prepare_finished (slot : Slot) (line : String) :
    (slot.prepare line).finished = slot.finished := by
  unfold prepare
  split <;> rfl

theorem prepare_pending (slot : Slot) (line : String) :
    (slot.prepare line).pending =
      if slot.finished then slot.pending else some line := by
  unfold prepare
  split <;> rfl

@[simp]
theorem prepare_current (slot : Slot) (line : String) :
    (slot.prepare line).current = slot.current := by
  unfold prepare
  split <;> rfl

end Slot

namespace Worker

/-- What the slot holds while the worker is where it is.  A worker that leaves its
loop may leave a token behind, which the end of the worker clears. -/
def Agrees (slot : Slot) : Worker → Prop
  | .absent _ | .awake _ | .asleep _ =>
      slot.finished = false ∧ slot.current = none
  | .running _ token _ => slot.finished = false ∧ slot.current = some token
  | .leaving _ => True
  | .stopped _ | .joined => slot.finished = true

theorem Agrees.notify {slot : Slot} {worker : Worker} (agrees : worker.Agrees slot) :
    worker.notify.Agrees slot := by
  cases worker <;> exact agrees

theorem Agrees.congr {slot other : Slot} {worker : Worker}
    (agrees : worker.Agrees slot) (sameFinished : other.finished = slot.finished)
    (sameCurrent : other.current = slot.current) : worker.Agrees other := by
  cases worker <;> simp only [Agrees, sameFinished, sameCurrent] at agrees ⊢ <;>
    exact agrees

end Worker

namespace Dispatcher

/-- The slot is sound, and the worker agrees with it. -/
structure Coherent (dispatcher : Dispatcher) : Prop where
  sound : dispatcher.slot.Sound
  agrees : dispatcher.worker.Agrees dispatcher.slot

variable {before after : Dispatcher} {log events : List Event}

@[simp]
theorem prepare_slot (dispatcher : Dispatcher) (line : String) :
    (dispatcher.prepare line).slot = dispatcher.slot.prepare line := by
  unfold prepare Slot.prepare
  split <;> rfl

theorem interrupt_worker (dispatcher : Dispatcher) :
    dispatcher.interrupt.worker = dispatcher.worker := by
  unfold interrupt
  split <;> rfl

namespace Coherent

theorem new (session : Session) (display : Display) (store : Option MacroStore) :
    (Dispatcher.new session display store).Coherent :=
  ⟨Slot.sound_empty, rfl, rfl⟩

theorem prepare (coherent : before.Coherent) (line : String) :
    (before.prepare line).Coherent := by
  have agrees : before.worker.Agrees (before.slot.prepare line) :=
    coherent.agrees.congr (Slot.prepare_finished _ _) (Slot.prepare_current _ _)
  unfold Dispatcher.prepare
  split
  · exact coherent
  · exact ⟨coherent.sound.prepare line, agrees.notify⟩

theorem transition (coherent : before.Coherent)
    (happened : Transition before events after) : after.Coherent := by
  obtain ⟨sound, agrees⟩ := coherent
  cases happened with
  | prepares line => exact prepare ⟨sound, agrees⟩ line
  | interrupts =>
      constructor
      · rw [interrupt_slot]
        exact sound
      · rw [interrupt_slot, interrupt_worker]
        exact agrees
  | shutsDown =>
      exact ⟨sound.requestShutdown, (agrees.congr rfl rfl).notify⟩
  | attends => exact ⟨sound, agrees⟩
  | leaves => exact ⟨sound, trivial⟩
  | begins rests | joins rests | sleeps rests =>
      rw [rests] at agrees
      exact ⟨sound, agrees⟩
  | takes awake =>
      rw [awake] at agrees
      exact ⟨.start agrees.1 _, agrees.1, rfl⟩
  | replies running _ sameSlot =>
      rw [running] at agrees
      constructor
      · rw [sameSlot]
        exact sound
      · rw [sameSlot]
        exact agrees
  | submits running =>
      rw [running] at agrees
      exact ⟨(prepare ⟨sound, running ▸ agrees⟩ _).sound,
        by simpa [Worker.Agrees] using agrees⟩
  | ends running stays =>
      rw [running] at agrees
      refine ⟨.endStep agrees.1 _, ?_⟩
      simp only [Dispatcher.endStep, stays]
      exact ⟨agrees.1, rfl⟩
  | exits running exit =>
      rw [running] at agrees
      refine ⟨.endStep agrees.1 _, ?_⟩
      simp only [Dispatcher.endStep, exit]
      trivial
  | unwinds => exact ⟨sound, trivial⟩
  | finishes => exact ⟨.finish _, rfl⟩

theorem history (coherent : before.Coherent) (happened : History before log after) :
    after.Coherent := by
  induction happened with
  | refl => exact coherent
  | snoc _ last ih => exact ih.transition last

end Coherent

/-- After any moves in any order, the activity of the slot tells what is pending
and what runs, a finished slot is empty, and the slot is settled exactly if it is
idle. -/
theorem sound_of_moves? {session : Session} {display : Display}
    {store : Option MacroStore} {moves : List Move} {reached : Dispatcher}
    (moved : (Dispatcher.new session display store).moves? moves = some reached) :
    reached.slot.Sound ∧
      (reached.slot.settled = true ↔ reached.slot.activity = .idle) := by
  have coherent := (Coherent.new session display store).history (history_of_moves? moved)
  exact ⟨coherent.sound, coherent.sound.settled_iff⟩

/-- A line that is prepared while another one runs waits without a change of the
activity. -/
theorem sound_of_prepare_while_executing :
    ∃ reached,
      (Dispatcher.new { registry := ∅ } {}).moves?
          [.begin, .prepare "a", .work, .prepare "b", .interrupt] =
        some reached ∧
      reached.slot =
        { pending := some "b", activity := .executing, current := some 0 } ∧
      reached.slot.Sound ∧
      (reached.slot.settled = true ↔ reached.slot.activity = .idle) := by
  have moved : (Dispatcher.new { registry := ∅ } {}).moves?
      [.begin, .prepare "a", .work, .prepare "b", .interrupt] = some _ := rfl
  exact ⟨_, moved, rfl, sound_of_moves? moved⟩

end Dispatcher
end CommandShell
