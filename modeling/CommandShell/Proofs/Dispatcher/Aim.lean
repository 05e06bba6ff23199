import CommandShell.Proofs.Dispatcher.Replay

/-!
# Which interrupts reach a line

The step of a line goes on from the move that takes the line to the critical
section that ends the step or, if the line unwound, to the one that ends the
worker.  `Effect` sorts all moves by what they do to the current token and to the
flags of the tokens.  From the take of a line on, its token is therefore current
exactly as long as the step goes on, and it is set exactly if an interrupt, or the
handler itself, cancelled the step while it went on.
-/

namespace CommandShell
namespace Dispatcher

/-- Whether a move is the critical section that ends the step under way. -/
def closesStep (dispatcher : Dispatcher) : Move → Bool
  | .work =>
      match dispatcher.worker with
      | .running _ _ (.done (_, .ok _)) | .leaving _ => true
      | _ => false
  | _ => false

/-- The moves that cancel the step under way: an interrupt, and the reply to a
handler that cancels its own step. -/
inductive Cancels (dispatcher : Dispatcher) : Move → Prop
  | interrupt : Cancels dispatcher .interrupt
  | handler {line : String} {token : Nat} {resume : Unit → RunningLine}
      (running : dispatcher.worker = .running line token (.ask .cancel resume)) :
      Cancels dispatcher .work

/-- Among its moves, a run makes one at a state that the moves before it lead to. -/
structure Makes (start : Dispatcher) (moves earlier : List Move)
    (before : Dispatcher) (move : Move) : Prop where
  listed : earlier ++ [move] <+: moves
  reaches : start.moves? earlier = some before

/-- The step under way at the start of a run is not over at its end. -/
def GoesOn (start : Dispatcher) (moves : List Move) : Prop :=
  ∀ earlier before move, Makes start moves earlier before move →
    before.closesStep move = false

/-- The step under way at the start of a run was cancelled while it went on. -/
def Cancelled (start : Dispatcher) (moves : List Move) : Prop :=
  ∃ earlier before move, Makes start moves earlier before move ∧
    GoesOn start earlier ∧ before.Cancels move

section Runs

variable {start before : Dispatcher} {moves : List Move} {move : Move}

theorem makes_snoc_iff {earlier : List Move} {at_ : Dispatcher} {made : Move}
    (reaches : start.moves? moves = some before) :
    Makes start (moves ++ [move]) earlier at_ made ↔
      Makes start moves earlier at_ made ∨
        earlier = moves ∧ at_ = before ∧ made = move := by
  constructor
  · rintro ⟨listed, reached⟩
    rcases List.prefix_concat_iff.1 listed with last | listed
    · obtain ⟨rfl, madeEq⟩ := List.append_inj' last rfl
      obtain rfl := Option.some_inj.1 (reached.symm.trans reaches)
      exact .inr ⟨rfl, rfl, List.singleton_inj.1 madeEq⟩
    · exact .inl ⟨listed, reached⟩
  · rintro (⟨listed, reached⟩ | ⟨rfl, rfl, rfl⟩)
    · exact ⟨listed.trans (List.prefix_append _ _), reached⟩
    · exact ⟨List.prefix_rfl, reaches⟩

theorem not_makes_nil {earlier : List Move} :
    ¬ Makes start [] earlier before move := by
  rintro ⟨listed, -⟩
  have lengthLe := listed.length_le
  simp at lengthLe

theorem goesOn_nil : GoesOn start [] := fun _ _ _ made =>
  absurd made not_makes_nil

theorem not_cancelled_nil : ¬ Cancelled start [] := by
  rintro ⟨earlier, before, move, made, -⟩
  exact not_makes_nil made

theorem goesOn_snoc_iff (reaches : start.moves? moves = some before) :
    GoesOn start (moves ++ [move]) ↔
      GoesOn start moves ∧ before.closesStep move = false := by
  constructor
  · intro goesOn
    constructor
    · intro earlier at_ made makes
      exact goesOn earlier at_ made ((makes_snoc_iff reaches).2 (.inl makes))
    · exact goesOn moves before move
        ((makes_snoc_iff reaches).2 (.inr ⟨rfl, rfl, rfl⟩))
  · rintro ⟨goesOn, stays⟩ earlier at_ made makes
    rcases (makes_snoc_iff reaches).1 makes with makes | ⟨-, rfl, rfl⟩
    · exact goesOn earlier at_ made makes
    · exact stays

theorem cancelled_snoc_iff (reaches : start.moves? moves = some before) :
    Cancelled start (moves ++ [move]) ↔
      Cancelled start moves ∨ GoesOn start moves ∧ before.Cancels move := by
  constructor
  · rintro ⟨earlier, at_, made, makes, goesOn, cancels⟩
    rcases (makes_snoc_iff reaches).1 makes with makes | ⟨rfl, rfl, rfl⟩
    · exact .inl ⟨earlier, at_, made, makes, goesOn, cancels⟩
    · exact .inr ⟨goesOn, cancels⟩
  · rintro (⟨earlier, at_, made, makes, goesOn, cancels⟩ | ⟨goesOn, cancels⟩)
    · exact ⟨earlier, at_, made, (makes_snoc_iff reaches).2 (.inl makes), goesOn,
        cancels⟩
    · exact ⟨moves, before, move,
        (makes_snoc_iff reaches).2 (.inr ⟨rfl, rfl, rfl⟩), goesOn, cancels⟩

end Runs

/-- What a move does to the current token and to the flags of the tokens. -/
inductive Effect (before : Dispatcher) (move : Move) (after : Dispatcher) : Prop
  | cancels (cancels : before.Cancels move)
      (current : after.slot.current = before.slot.current)
      (tokens : after.tokens = before.interrupt.tokens)
  | takes (spares : ¬ before.Cancels move) (resting : before.slot.current = none)
      (current : after.slot.current = some before.tokens.issue.1)
      (tokens : after.tokens = before.tokens.issue.2)
  | closes (spares : ¬ before.Cancels move) (closes : before.closesStep move = true)
      (current : after.slot.current = none)
      (tokens : after.tokens = before.tokens)
  | keeps (spares : ¬ before.Cancels move)
      (stays : before.closesStep move = false)
      (current : after.slot.current = before.slot.current)
      (tokens : after.tokens = before.tokens)

variable {before after : Dispatcher} {move : Move}

theorem closesStep_of_cancels (cancels : before.Cancels move) :
    before.closesStep move = false := by
  cases cancels with
  | interrupt => rfl
  | handler running => rw [closesStep, running]

theorem not_cancels_work {worker : Worker} (workerEq : before.worker = worker)
    (other : ∀ line token resume,
      worker ≠ .running line token (.ask .cancel resume)) :
    ¬ before.Cancels .work := by
  intro cancels
  cases cancels with
  | handler running => exact other _ _ _ (workerEq.symm.trans running)

theorem unchanged_of_transition (happened : Transition before [] after) :
    after.slot.current = before.slot.current ∧ after.tokens = before.tokens := by
  cases happened <;> exact ⟨rfl, rfl⟩

theorem unchanged_of_reply? {token : Nat} {signal : Session.Signal}
    {answer : signal.Reply} (other : signal ≠ .cancel)
    (reply : before.reply? token signal = some (answer, after)) :
    after.slot.current = before.slot.current ∧ after.tokens = before.tokens := by
  cases signal with
  | cancel => exact absurd rfl other
  | await =>
      rw [reply?] at reply
      split at reply
      · cases reply
        exact ⟨rfl, rfl⟩
      · split at reply <;> cases reply
        exact ⟨rfl, rfl⟩
  | submit line =>
      cases reply
      rw [prepare_slot, Slot.prepare_current, prepare_tokens]
      exact ⟨rfl, rfl⟩
  | _ =>
      cases reply
      exact ⟨rfl, rfl⟩

theorem endStep_current (slot : Slot) (exit : Bool) :
    (slot.endStep exit).current = none := by
  cases exit <;> rfl

theorem effect_of_work? (coherent : before.Coherent)
    (worked : before.work? = some after) : Effect before .work after := by
  have agrees := coherent.agrees
  cases works_of_work? worked with
  | leaves awake | sleeps awake =>
      exact .keeps (not_cancels_work awake (by simp)) (by rw [closesStep, awake])
        rfl rfl
  | takes awake =>
      rw [awake] at agrees
      exact .takes (not_cancels_work awake (by simp)) agrees.2 rfl rfl
  | @replies _ _ signal _ _ _ running reply =>
      by_cases other : signal = .cancel
      · subst other
        cases reply
        refine .cancels (.handler running) ?_ rfl
        rw [interrupt_slot]
      · obtain ⟨current, tokens⟩ := unchanged_of_reply? other reply
        refine .keeps (not_cancels_work running ?_) ?_ current tokens
        · rintro _ _ _ ⟨⟩
          exact other rfl
        · rw [closesStep, running]
  | ends running =>
      exact .closes (not_cancels_work running (by simp))
        (by rw [closesStep, running]) (endStep_current _ _) rfl
  | unwinds running =>
      exact .keeps (not_cancels_work running (by simp))
        (by rw [closesStep, running]) rfl rfl
  | finishes leaving =>
      exact .closes (not_cancels_work leaving (by simp))
        (by rw [closesStep, leaving]) rfl rfl

theorem effect_of_move? (coherent : before.Coherent)
    (moved : before.move? move = some after) : Effect before move after := by
  have happened := transition_of_move? moved
  cases move with
  | prepare line =>
      cases moved
      refine .keeps nofun rfl ?_ (prepare_tokens before line)
      rw [prepare_slot, Slot.prepare_current]
  | interrupt =>
      cases moved
      exact .cancels .interrupt (by rw [interrupt_slot]) rfl
  | work => exact effect_of_work? coherent moved
  | _ =>
      obtain ⟨current, tokens⟩ := unchanged_of_transition happened
      exact .keeps nofun rfl current tokens

section Window

variable {start reached : Dispatcher} {moves : List Move} {token : Nat}

/-- What is known of a token since its line was taken: it is current as long as the
step goes on, and it is set if the step was cancelled while it went on. -/
structure Aimed (start : Dispatcher) (token : Nat) (moves : List Move)
    (reached : Dispatcher) : Prop where
  coherent : reached.Coherent
  issued : token < reached.tokens.flags.length
  current : reached.slot.current = some token ↔ GoesOn start moves
  set : reached.tokens.isSet token = true ↔ Cancelled start moves

theorem isSet_issue_of_lt {tokens : Tokens} (issued : token < tokens.flags.length) :
    tokens.issue.2.isSet token = tokens.isSet token := by
  simp [Tokens.issue, Tokens.isSet, List.getElem?_append_left issued]

theorem isSet_cancel_of_ne {tokens : Tokens} {other : Nat} (different : other ≠ token) :
    (tokens.cancel other).isSet token = tokens.isSet token := by
  simp [Tokens.cancel, Tokens.isSet, List.getElem?_set_ne different]

theorem interrupt_isSet_iff (issued : token < before.tokens.flags.length) :
    before.interrupt.tokens.isSet token = true ↔
      before.tokens.isSet token = true ∨ before.slot.current = some token := by
  unfold interrupt
  cases currentEq : before.slot.current with
  | none => simp
  | some other =>
      by_cases same : other = token
      · subst same
        simp [isSet_cancel issued]
      · simp [isSet_cancel_of_ne same, same]

theorem Aimed.move? (aimed : Aimed start token moves before)
    (reaches : start.moves? moves = some before)
    (moved : before.move? move = some after) :
    Aimed start token (moves ++ [move]) after := by
  obtain ⟨coherent, issued, current, set⟩ := aimed
  have coherent' := coherent.transition (transition_of_move? moved)
  have setAfter : Cancelled start (moves ++ [move]) ↔ _ :=
    cancelled_snoc_iff reaches
  have currentAfter : GoesOn start (moves ++ [move]) ↔ _ :=
    goesOn_snoc_iff reaches
  cases effect_of_move? coherent moved with
  | cancels cancels sameCurrent tokens =>
      refine ⟨coherent', ?_, ?_, ?_⟩
      · rw [tokens, interrupt_issued]
        exact issued
      · rw [sameCurrent, current, currentAfter]
        simp [closesStep_of_cancels cancels]
      · rw [tokens, interrupt_isSet_iff issued, set, current, setAfter]
        simp [cancels]
  | takes spares resting newCurrent tokens =>
      have closed : ¬ GoesOn start moves := by
        rw [← current, resting]
        nofun
      have different : before.tokens.issue.1 ≠ token := by
        simp only [Tokens.issue]
        omega
      refine ⟨coherent', ?_, ?_, ?_⟩
      · rw [tokens, Tokens.issue, List.length_append]
        omega
      · rw [newCurrent, currentAfter]
        simp [different, closed]
      · rw [tokens, isSet_issue_of_lt issued, set, setAfter]
        simp [spares]
  | closes spares closes noCurrent tokens =>
      refine ⟨coherent', tokens ▸ issued, ?_, ?_⟩
      · rw [noCurrent, currentAfter]
        simp [closes]
      · rw [tokens, set, setAfter]
        simp [spares]
  | keeps spares stays sameCurrent tokens =>
      refine ⟨coherent', tokens ▸ issued, ?_, ?_⟩
      · rw [sameCurrent, current, currentAfter]
        simp [stays]
      · rw [tokens, set, setAfter]
        simp [spares]

theorem Aimed.takes {line : String} (coherent : before.Coherent)
    (takes : .taken line token ∈ before.workEvents)
    (taken : before.move? .work = some start) :
    (∃ left, start.worker = .running line token (Session.run line left)) ∧
      Aimed start token [] start := by
  have happened := transition_of_work? taken
  have coherent' := coherent.transition happened
  generalize before.workEvents = events at takes happened
  cases happened with
  | takes awake pending =>
      obtain ⟨rfl, rfl⟩ := Event.taken.inj (List.mem_singleton.1 takes)
      refine ⟨⟨_, rfl⟩, coherent', ?_, ?_, ?_⟩
      · simp [Tokens.issue]
      · simp [Slot.start, goesOn_nil]
      · simp [isSet_issue, not_cancelled_nil]
  | _ => simp at takes

end Window

/-- An interrupt reaches the line that runs and nothing else.  The token of a line is
not set when the line is taken, whatever was interrupted before.  From then on it is
set exactly if an interrupt, or the handler of the line, cancelled the step while it
went on.  An interrupt that comes later leaves the token as it is, one that finds no
line running changes nothing at all, and no interrupt changes more than the tokens. -/
theorem isSet_iff_cancelled {session : Session} {display : Display}
    {store : Option MacroStore} {earlier later : List Move}
    {before start reached : Dispatcher} {line : String} {token : Nat}
    (moved : (Dispatcher.new session display store).moves? earlier = some before)
    (takes : .taken line token ∈ before.workEvents)
    (taken : before.move? .work = some start)
    (ran : start.moves? later = some reached) :
    (∃ left, start.worker = .running line token (Session.run line left)) ∧
      start.tokens.isSet token = false ∧
      (reached.tokens.isSet token = true ↔ Cancelled start later) ∧
      (reached.slot.current = some token ↔ GoesOn start later) ∧
      (¬ GoesOn start later → reached.interrupt.tokens.isSet token =
        reached.tokens.isSet token) ∧
      (reached.slot.current = none → reached.interrupt = reached) ∧
      reached.interrupt =
        { reached with tokens := reached.interrupt.tokens } := by
  have coherent := (Coherent.new session display store).history (history_of_moves? moved)
  obtain ⟨runs, begins⟩ := Aimed.takes coherent takes taken
  have aimed : Aimed start token later reached :=
    moves?_induction begins
      (fun _ _ _ _ reaches aimed moved => aimed.move? reaches moved) ran
  refine ⟨runs, ?_, aimed.set, aimed.current, ?_, ?_, ?_⟩
  · exact Bool.eq_false_iff.2 fun set => not_cancelled_nil (begins.set.1 set)
  · intro closed
    rw [Bool.eq_iff_iff, interrupt_isSet_iff aimed.issued, aimed.current]
    simp [closed]
  · intro resting
    rw [interrupt, resting]
  · unfold interrupt
    split <;> rfl

/-- The line `a` is interrupted before it has begun and after it has ended, when `b`
runs.  Only `b` is cancelled. -/
theorem isSet_of_interrupted_around :
    ∃ before start reached,
      (Dispatcher.new { registry := ∅ } {}).moves?
          [.interrupt, .begin, .prepare "a", .interrupt] = some before ∧
      before.move? .work = some start ∧
      start.moves? (.prepare "b" :: .replicate 5 .work ++ [.interrupt]) =
        some reached ∧
      reached.slot.current = some 1 ∧ reached.tokens.isSet 1 = true ∧
      reached.tokens.isSet 0 = false ∧
      ¬ Cancelled start (.prepare "b" :: .replicate 5 .work ++ [.interrupt]) ∧
      ¬ GoesOn start (.prepare "b" :: .replicate 5 .work ++ [.interrupt]) := by
  have reachesAll : (((Dispatcher.new { registry := ∅ } {}).moves?
      [.interrupt, .begin, .prepare "a", .interrupt]).bind fun before =>
        (before.move? .work).bind fun start =>
          (start.moves? (.prepare "b" :: .replicate 5 .work ++ [.interrupt])).map
            fun reached => (reached.slot.current, reached.tokens.isSet 1,
              reached.tokens.isSet 0)) = some (some 1, true, false) := by
    decide +kernel
  obtain ⟨before, moved, later⟩ := Option.bind_eq_some_iff.1 reachesAll
  obtain ⟨start, taken, later⟩ := Option.bind_eq_some_iff.1 later
  obtain ⟨reached, ran, ends⟩ := Option.map_eq_some_iff.1 later
  obtain ⟨current, set, unset⟩ : _ ∧ _ ∧ _ := by simpa using ends
  have takes : Event.taken "a" 0 ∈ before.workEvents := by
    cases moved
    exact List.mem_singleton.2 rfl
  obtain ⟨-, -, setIff, currentIff, -⟩ :=
    isSet_iff_cancelled moved takes taken ran
  refine ⟨before, start, reached, moved, taken, ran, current, set, unset, ?_, ?_⟩
  · rw [← setIff, unset]
    nofun
  · rw [← currentIff, current]
    nofun

end Dispatcher
end CommandShell
