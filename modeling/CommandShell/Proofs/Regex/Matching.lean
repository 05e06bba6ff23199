import Mathlib.Data.Finset.Card
import Mathlib.Data.Finset.Range
import CommandShell.Regex.Matching

/-!
# What a match is

An expression spans a stretch of a subject if its parts span parts of the stretch, one behind the
other.  Moving sets of positions finds just the ends of the stretches that an expression spans, so a
line contains a match exactly if there is such a stretch in it.
-/

namespace CommandShell
namespace Regex

/-- A relation holds `count` times in a row. -/
def Times (step : Nat → Nat → Prop) : Nat → Nat → Nat → Prop
  | 0, first, last => first = last
  | count + 1, first, last => ∃ middle, step first middle ∧ Times step count middle last

/-- An expression matches the stretch of a subject between two positions.  A repetition whose
largest count is below its least one is made as often as the least one says. -/
def Expression.Spans (subject : Array Char) : Expression → Nat → Nat → Prop
  | .empty, first, last => last = first
  | .set members, first, last =>
      (∃ c, subject[first]? = some c ∧ members.contains c = true) ∧ last = first + 1
  | .look condition, first, last =>
      first ≤ subject.size ∧ last = first ∧
        condition.holds (if first = 0 then none else subject[first - 1]?) subject[first]? = true
  | .sequence before behind, first, last =>
      ∃ middle, before.Spans subject first middle ∧ behind.Spans subject middle last
  | .choice left right, first, last =>
      left.Spans subject first last ∨ right.Spans subject first last
  | .repeated body least most, first, last =>
      ∃ count, least ≤ count ∧ (∀ limit, most = some limit → count ≤ max least limit) ∧
        Times (body.Spans subject) count first last

section Times

variable {step : Nat → Nat → Prop} {first last : Nat}

theorem times_add (count more : Nat) : Times step (count + more) first last ↔
    ∃ middle, Times step count first middle ∧ Times step more middle last := by
  induction count generalizing first with
  | zero => simp [Times]
  | succ count ih =>
      rw [Nat.succ_add]
      simp only [Times, ih]
      constructor
      · rintro ⟨next, steps, middle, times, later⟩
        exact ⟨middle, ⟨next, steps, times⟩, later⟩
      · rintro ⟨middle, ⟨next, steps, times⟩, later⟩
        exact ⟨next, steps, middle, times, later⟩

theorem times_of_closed (closed : Nat → Prop) (closes : ∀ i j, closed i → step i j → closed j)
    {count : Nat} (start : closed first) (times : Times step count first last) : closed last := by
  induction count generalizing first with
  | zero => exact times ▸ start
  | succ count ih =>
      obtain ⟨middle, steps, later⟩ := times
      exact ih (closes first middle start steps) later

end Times

/-- The position `i` is in a set of positions. -/
abbrev At (positions i : Nat) : Prop := positions.testBit i = true

@[simp]
theorem at_or {left right i : Nat} : At (left ||| right) i ↔ At left i ∨ At right i := by
  rw [At, Nat.testBit_or, Bool.or_eq_true]

theorem not_at_zero (i : Nat) : ¬ At 0 i := by
  rw [At, Nat.zero_testBit]
  exact Bool.false_ne_true

/-- No position in a set is behind the end of the subject. -/
def Within (size positions : Nat) : Prop := ∀ i, At positions i → i ≤ size

/-- A function moves the positions of a subject along a relation. -/
structure Moves (size : Nat) (advance : Nat → Nat) (step : Nat → Nat → Prop) : Prop where
  at_iff : ∀ {positions}, Within size positions → ∀ j,
    At (advance positions) j ↔ ∃ i, At positions i ∧ step i j
  bounded : ∀ {i j}, step i j → i ≤ size → j ≤ size

namespace Moves

variable {size positions seen fresh count j : Nat} {advance : Nat → Nat} {step : Nat → Nat → Prop}

theorem within (moves : Moves size advance step) (within : Within size positions) :
    Within size (advance positions) := by
  intro j reached
  obtain ⟨i, isAt, steps⟩ := (moves.at_iff within j).1 reached
  exact moves.bounded steps (within i isAt)

theorem bounded_times (moves : Moves size advance step) {first last : Nat}
    (times : Times step count first last) (start : first ≤ size) : last ≤ size :=
  times_of_closed (· ≤ size) (fun _ _ small steps => moves.bounded steps small) start times

/-- A set that is moved to itself stays where it is. -/
theorem at_iff_of_fixed (moves : Moves size advance step) (within : Within size positions)
    (fixed : advance positions = positions) (count j : Nat) :
    At positions j ↔ ∃ i, At positions i ∧ Times step count i j := by
  induction count generalizing j with
  | zero => simp [Times]
  | succ count ih =>
      rw [ih]
      constructor
      · rintro ⟨i, isAt, times⟩
        rw [← fixed, moves.at_iff within] at isAt
        obtain ⟨before, isAt, steps⟩ := isAt
        exact ⟨before, isAt, i, steps, times⟩
      · rintro ⟨i, isAt, middle, steps, times⟩
        refine ⟨middle, ?_, times⟩
        rw [← fixed, moves.at_iff within]
        exact ⟨i, isAt, steps⟩

theorem advanceTimes (moves : Moves size advance step) (count : Nat) :
    Moves size (fun positions => Regex.advanceTimes advance positions count)
      (Times step count) where
  bounded times small := moves.bounded_times times small
  at_iff {positions} within j := by
    induction count generalizing positions with
    | zero => simp [Regex.advanceTimes, Times]
    | succ count ih =>
        rw [Regex.advanceTimes]
        split
        · next fixed => exact moves.at_iff_of_fixed within fixed (count + 1) j
        · rw [ih (moves.within within)]
          simp only [moves.at_iff within, Times]
          constructor
          · rintro ⟨middle, ⟨i, isAt, steps⟩, times⟩
            exact ⟨i, isAt, middle, steps, times⟩
          · rintro ⟨i, isAt, middle, steps, times⟩
            exact ⟨middle, ⟨i, isAt, steps⟩, times⟩

theorem at_advanceUpTo_iff (moves : Moves size advance step) (within : Within size fresh)
    (most : Nat) : At (advanceUpTo advance seen fresh most) j ↔
      At seen j ∨ ∃ count i, count < most ∧ At fresh i ∧ Times step (count + 1) i j := by
  induction most generalizing seen fresh with
  | zero => simp [advanceUpTo]
  | succ most ih =>
      rw [advanceUpTo]
      split
      · next stopped =>
          rw [Bool.and_eq_true, decide_eq_true_iff, decide_eq_true_iff] at stopped
          obtain ⟨absorbed, fixed⟩ := stopped
          refine ⟨.inl, ?_⟩
          rintro (isAt | ⟨count, i, -, isAt, times⟩)
          · exact isAt
          · have reached := (moves.at_iff_of_fixed within fixed (count + 1) j).2 ⟨i, isAt, times⟩
            rw [← absorbed, at_or, fixed]
            exact .inl reached
      · rw [ih (moves.within within), at_or, moves.at_iff within]
        constructor
        · rintro ((isAt | ⟨i, isAt, steps⟩) | ⟨count, middle, small, reached, times⟩)
          · exact .inl isAt
          · exact .inr ⟨0, i, Nat.succ_pos most, isAt, j, steps, rfl⟩
          · obtain ⟨i, isAt, steps⟩ := (moves.at_iff within middle).1 reached
            exact .inr ⟨count + 1, i, Nat.succ_lt_succ small, isAt, middle, steps, times⟩
        · rintro (isAt | ⟨_ | count, i, small, isAt, middle, steps, times⟩)
          · exact .inl (.inl isAt)
          · obtain rfl : middle = j := times
            exact .inl (.inr ⟨i, isAt, steps⟩)
          · exact .inr ⟨count, middle, Nat.lt_of_succ_lt_succ small,
              (moves.at_iff within middle).2 ⟨i, isAt, steps⟩, times⟩

/-- The set `seen` has all that is reached from it in one step, but for what is reached from
`fresh`. -/
structure Explores (size : Nat) (step : Nat → Nat → Prop) (seen fresh : Nat) : Prop where
  within : Within size seen
  subset : ∀ i, At fresh i → At seen i
  closed : ∀ i j, At seen i → ¬ At fresh i → step i j → At seen j

theorem Explores.freshWithin (explores : Explores size step seen fresh) : Within size fresh :=
  fun i isAt => explores.within i (explores.subset i isAt)

/-- The positions of a set that another one does not have. -/
theorem at_new_iff {reached i : Nat} :
    At (reached ^^^ (reached &&& seen)) i ↔ At reached i ∧ ¬ At seen i := by
  simp [At, Nat.testBit_xor, Nat.testBit_and]

theorem at_seen_or_new {i : Nat} (reached : At (advance fresh) i) :
    At (seen ||| advance fresh ^^^ (advance fresh &&& seen)) i := by
  rw [at_or, at_new_iff]
  by_cases isSeen : At seen i
  · exact .inl isSeen
  · exact .inr ⟨reached, isSeen⟩

theorem explores_next (moves : Moves size advance step) (explores : Explores size step seen fresh) :
    Explores size step (seen ||| advance fresh ^^^ (advance fresh &&& seen))
      (advance fresh ^^^ (advance fresh &&& seen)) where
  within i isAt := by
    rcases at_or.1 isAt with isAt | isNew
    · exact explores.within i isAt
    · exact moves.within explores.freshWithin i (at_new_iff.1 isNew).1
  subset i isNew := at_or.2 (.inr isNew)
  closed i j isAt isOld steps := by
    have isAt := (at_or.1 isAt).resolve_right isOld
    by_cases isFresh : At fresh i
    · exact at_seen_or_new ((moves.at_iff explores.freshWithin j).2 ⟨i, isFresh, steps⟩)
    · exact at_or.2 (.inl (explores.closed i j isAt isFresh steps))

/-- The positions that are not in a set. -/
def missing (size seen : Nat) : Finset Nat :=
  (Finset.range (size + 1)).filter fun i => seen.testBit i = false

theorem mem_missing {i : Nat} : i ∈ missing size seen ↔ i ≤ size ∧ ¬ At seen i := by
  rw [missing, Finset.mem_filter, Finset.mem_range, Nat.lt_succ_iff, At, Bool.not_eq_true]

theorem at_of_card_missing {i : Nat} (none : (missing size seen).card ≤ 0) (small : i ≤ size) :
    At seen i := by
  by_contra isMissing
  have member := mem_missing.2 ⟨small, isMissing⟩
  rw [Finset.card_eq_zero.1 (Nat.le_zero.1 none)] at member
  exact Finset.notMem_empty i member

theorem card_missing_lt {new i : Nat} (isNew : At new i) (small : i ≤ size) (unseen : ¬ At seen i) :
    (missing size (seen ||| new)).card < (missing size seen).card := by
  refine Finset.card_lt_card (Finset.ssubset_iff_of_subset ?_ |>.2 ⟨i, ?_, ?_⟩)
  · intro i member
    rw [mem_missing, at_or, not_or] at member
    exact mem_missing.2 ⟨member.1, member.2.1⟩
  · exact mem_missing.2 ⟨small, unseen⟩
  · rw [mem_missing, at_or]
    exact fun member => member.2 (.inr isNew)

/-- Exploring ends with the positions that are reached in any number of steps.  The fuel is enough
since every round but the last finds a position that was missing. -/
theorem at_closure_iff (moves : Moves size advance step) (fuel : Nat)
    (explores : Explores size step seen fresh) (enough : (missing size seen).card ≤ fuel) :
    At (closure advance fuel seen fresh) j ↔ ∃ i count, At seen i ∧ Times step count i j := by
  induction fuel generalizing seen fresh with
  | zero =>
      rw [closure]
      constructor
      · exact fun isAt => ⟨j, 0, isAt, rfl⟩
      · rintro ⟨i, count, isAt, times⟩
        exact at_of_card_missing enough (moves.bounded_times times (explores.within i isAt))
  | succ fuel ih =>
      have freshWithin := explores.freshWithin
      rw [closure]
      split
      · next none =>
          have settled := moves.explores_next explores
          rw [none, Nat.or_zero] at settled
          have closes : ∀ i j, At seen i → step i j → At seen j :=
            fun i j isAt steps => settled.closed i j isAt (not_at_zero i) steps
          constructor
          · exact fun isAt => ⟨j, 0, isAt, rfl⟩
          · rintro ⟨i, count, isAt, times⟩
            exact times_of_closed (At seen) closes isAt times
      · next some =>
          obtain ⟨new, isNew⟩ := Nat.exists_testBit_of_ne_zero some
          obtain ⟨reached, unseen⟩ := at_new_iff.1 isNew
          have fewer := card_missing_lt isNew (moves.within freshWithin new reached) unseen
          rw [ih (moves.explores_next explores) (by omega)]
          simp only [at_or, at_new_iff]
          constructor
          · rintro ⟨i, count, isAt | ⟨reached, -⟩, times⟩
            · exact ⟨i, count, isAt, times⟩
            · obtain ⟨before, isFresh, steps⟩ := (moves.at_iff freshWithin i).1 reached
              exact ⟨before, count + 1, explores.subset before isFresh, i, steps, times⟩
          · rintro ⟨i, count, isAt, times⟩
            exact ⟨i, count, .inl isAt, times⟩

theorem closure_self (moves : Moves size advance step) :
    Moves size (fun positions => closure advance (size + 1) positions positions)
      fun first last => ∃ count, Times step count first last where
  bounded := fun ⟨_, times⟩ small => moves.bounded_times times small
  at_iff {positions} within j := by
    have explores : Explores size step positions positions :=
      ⟨within, fun _ => id, fun _ _ isAt notAt => absurd isAt notAt⟩
    have enough : (missing size positions).card ≤ size + 1 :=
      (Finset.card_filter_le _ _).trans (Finset.card_range _).le
    rw [moves.at_closure_iff (size + 1) explores enough]
    simp only [exists_and_left]

theorem repeated (moves : Moves size advance step) (least : Nat) (most : Option Nat) :
    Moves size
      (fun positions =>
        let started := Regex.advanceTimes advance positions least
        match most with
        | none => closure advance (size + 1) started started
        | some most => advanceUpTo advance started started (most - least))
      fun first last => ∃ count, least ≤ count ∧
        (∀ limit, most = some limit → count ≤ max least limit) ∧
        Times step count first last where
  bounded := fun ⟨_, _, _, times⟩ small => moves.bounded_times times small
  at_iff {positions} within j := by
    have startedWithin := (moves.advanceTimes least).within within
    have started_iff := (moves.advanceTimes least).at_iff within
    dsimp only at startedWithin started_iff ⊢
    cases most with
    | none =>
        dsimp only
        rw [moves.closure_self.at_iff startedWithin]
        simp only [started_iff]
        constructor
        · rintro ⟨middle, ⟨i, isAt, first⟩, count, later⟩
          exact ⟨i, isAt, least + count, Nat.le_add_right .., nofun,
            (times_add least count).2 ⟨middle, first, later⟩⟩
        · rintro ⟨i, isAt, count, atLeast, -, times⟩
          obtain ⟨more, rfl⟩ := Nat.exists_eq_add_of_le atLeast
          obtain ⟨middle, first, later⟩ := (times_add least more).1 times
          exact ⟨middle, ⟨i, isAt, first⟩, more, later⟩
    | some most =>
        dsimp only
        rw [moves.at_advanceUpTo_iff startedWithin]
        simp only [started_iff]
        constructor
        · rintro (⟨i, isAt, times⟩ | ⟨count, middle, small, ⟨i, isAt, first⟩, later⟩)
          · exact ⟨i, isAt, least, Nat.le_refl _, fun limit _ => Nat.le_max_left .., times⟩
          · refine ⟨i, isAt, least + (count + 1), Nat.le_add_right .., ?_,
              (times_add least (count + 1)).2 ⟨middle, first, later⟩⟩
            rintro limit ⟨⟩
            omega
        · rintro ⟨i, isAt, count, atLeast, atMost, times⟩
          have atMost := atMost most rfl
          obtain ⟨more, rfl⟩ := Nat.exists_eq_add_of_le atLeast
          obtain ⟨middle, first, later⟩ := (times_add least more).1 times
          cases more with
          | zero => exact .inl ⟨i, isAt, times⟩
          | succ more => exact .inr ⟨more, middle, by omega, ⟨i, isAt, first⟩, later⟩

end Moves

section Expressions

theorem at_keepPositions_iff {condition : Nat → Bool} {positions bound i : Nat} :
    At (keepPositions condition positions bound) i ↔
      i < bound ∧ At positions i ∧ condition i = true := by
  induction bound generalizing i with
  | zero => simp [keepPositions, At]
  | succ bound ih =>
      have below : keepPositions condition positions bound < 2 ^ bound := by
        refine Nat.lt_pow_two_of_testBit _ fun i large => Bool.eq_false_iff.2 fun isAt => ?_
        exact Nat.not_lt.2 large (ih.1 isAt).1
      rw [keepPositions]
      split
      · next kept =>
          have bits := Nat.two_pow_add_eq_or_of_lt below 1
          rw [Nat.mul_one] at bits
          rw [Nat.one_shiftLeft, Nat.add_comm, bits, at_or, ih, At, Nat.testBit_two_pow,
            decide_eq_true_iff]
          rw [Bool.and_eq_true] at kept
          constructor
          · rintro (rfl | ⟨small, isAt, holds⟩)
            · exact ⟨Nat.lt_succ_self _, kept⟩
            · exact ⟨Nat.lt_succ_of_lt small, isAt, holds⟩
          · rintro ⟨small, isAt, holds⟩
            rcases Nat.lt_succ_iff_lt_or_eq.1 small with small | rfl
            · exact .inr ⟨small, isAt, holds⟩
            · exact .inl rfl
      · next dropped =>
          rw [ih, Nat.lt_succ_iff_lt_or_eq]
          constructor
          · rintro ⟨small, kept⟩
            exact ⟨.inl small, kept⟩
          · rintro ⟨small | rfl, kept⟩
            · exact ⟨small, kept⟩
            · exact absurd (Bool.and_eq_true _ _ ▸ kept) dropped

/-- Moving sets of positions is moving along the stretches that an expression spans. -/
theorem Expression.moves (subject : Array Char) (expression : Expression) :
    Moves subject.size (expression.advance subject) (expression.Spans subject) := by
  induction expression with
  | empty =>
      constructor
      · intro positions within j
        constructor
        · exact fun isAt => ⟨j, isAt, rfl⟩
        · rintro ⟨i, isAt, rfl⟩
          exact isAt
      · rintro i _ rfl small
        exact small
  | set members =>
      constructor
      · intro positions within j
        rw [advance, At, Nat.testBit_shiftLeft, Bool.and_eq_true, decide_eq_true_iff]
        constructor
        · rintro ⟨positive, kept⟩
          obtain ⟨-, isAt, isMember⟩ := at_keepPositions_iff.1 kept
          rw [Option.any_eq_true] at isMember
          exact ⟨j - 1, isAt, isMember, (Nat.sub_add_cancel positive).symm⟩
        · rintro ⟨i, isAt, ⟨c, found, isMember⟩, rfl⟩
          have small := (Array.getElem?_eq_some_iff.1 found).1
          refine ⟨Nat.succ_pos i, at_keepPositions_iff.2 ⟨small, isAt, ?_⟩⟩
          rw [Nat.add_sub_cancel, found]
          exact isMember
      · rintro i _ ⟨⟨c, found, -⟩, rfl⟩ -
        exact (Array.getElem?_eq_some_iff.1 found).1
  | look condition =>
      constructor
      · intro positions within j
        rw [advance, at_keepPositions_iff]
        constructor
        · rintro ⟨small, isAt, holds⟩
          exact ⟨j, isAt, Nat.le_of_lt_succ small, rfl, holds⟩
        · rintro ⟨_, isAt, small, rfl, holds⟩
          exact ⟨Nat.lt_succ_of_le small, isAt, holds⟩
      · rintro i _ ⟨small, rfl, -⟩ -
        exact small
  | sequence before behind beforeMoves behindMoves =>
      constructor
      · intro positions within j
        rw [advance, behindMoves.at_iff (beforeMoves.within within)]
        simp only [beforeMoves.at_iff within, Spans]
        constructor
        · rintro ⟨middle, ⟨i, isAt, first⟩, second⟩
          exact ⟨i, isAt, middle, first, second⟩
        · rintro ⟨i, isAt, middle, first, second⟩
          exact ⟨middle, ⟨i, isAt, first⟩, second⟩
      · rintro i j ⟨middle, first, second⟩ small
        exact behindMoves.bounded second (beforeMoves.bounded first small)
  | choice left right leftMoves rightMoves =>
      constructor
      · intro positions within j
        rw [advance, at_or, leftMoves.at_iff within, rightMoves.at_iff within]
        simp only [Spans, and_or_left, exists_or]
      · rintro i j (first | second) small
        · exact leftMoves.bounded first small
        · exact rightMoves.bounded second small
  | repeated body least most moves =>
      exact moves.repeated least most

/-- A line contains a match exactly if the expression spans a stretch of it. -/
theorem matchesIn_iff {expression : Expression} {line : String} :
    expression.matchesIn line = true ↔
      ∃ first last, first ≤ line.toList.length ∧
        expression.Spans line.toList.toArray first last := by
  have everywhere (i : Nat) : At (1 <<< (line.toList.toArray.size + 1) - 1) i ↔
      i ≤ line.toList.length := by
    rw [At, Nat.one_shiftLeft, Nat.testBit_two_pow_sub_one, decide_eq_true_iff, Nat.lt_succ_iff,
      List.size_toArray]
  have within : Within line.toList.toArray.size (1 <<< (line.toList.toArray.size + 1) - 1) :=
    fun i isAt => (everywhere i).1 isAt
  have reached := (expression.moves line.toList.toArray).at_iff within
  rw [Expression.matchesIn, bne_iff_ne]
  constructor
  · intro some
    obtain ⟨last, isAt⟩ := Nat.exists_testBit_of_ne_zero some
    obtain ⟨first, isStart, spans⟩ := (reached last).1 isAt
    exact ⟨first, last, (everywhere first).1 isStart, spans⟩
  · rintro ⟨first, last, small, spans⟩ none
    have isAt := (reached last).2 ⟨first, (everywhere first).2 small, spans⟩
    rw [none] at isAt
    exact not_at_zero last isAt

end Expressions

end Regex
end CommandShell
