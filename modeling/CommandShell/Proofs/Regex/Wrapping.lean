import CommandShell.Builtin.Text
import CommandShell.Proofs.Regex.Matching
import CommandShell.Proofs.Regex.Pieces

/-!
# A pattern as a group of another one

A group is read as the pattern in it would be read alone, if the parenthesis that was meant to close
the group does close it.  A pattern that opens with a question mark or that closes a group which it
has not opened may take the parentheses around it for its own.
-/

namespace CommandShell
namespace Regex

variable {after pattern rest : List Char} {flags : Flags} {state next : ReaderState}
variable {outer : OpenGroup} {piece : Piece}

namespace ReaderState

/-- What has been read inside of a group. -/
def within (state : ReaderState) (outer : OpenGroup) : ReaderState :=
  { state with stack := state.stack ++ [outer] }

@[simp]
theorem within_flags (state : ReaderState) (outer : OpenGroup) :
    (state.within outer).flags = state.flags := rfl

@[simp]
theorem within_stack (state : ReaderState) (outer : OpenGroup) :
    (state.within outer).stack = state.stack ++ [outer] := rfl

theorem openNamed_within (state : ReaderState) (outer : OpenGroup) (pattern : List Char) :
    (state.within outer).openNamed pattern =
      (fun read => (read.1.within outer, read.2)) <$> state.openNamed pattern := by
  unfold openNamed
  cases readGroupName [] pattern with
  | error error => rfl
  | ok read =>
      change (if _ then _ else _) = _ <$> (if _ then _ else _)
      change (if state.names.contains read.1 then _ else _) = _
      split <;> rfl

theorem readGroup_within (state : ReaderState) (outer : OpenGroup) (pattern : List Char) :
    (state.within outer).readGroup pattern =
      (fun read => (read.1.within outer, read.2)) <$> state.readGroup pattern := by
  unfold readGroup
  rw [within_flags]
  split
  case h_1 | h_2 | h_3 | h_4 | h_7 | h_9 => rfl
  case h_5 | h_6 => exact openNamed_within state outer _
  · next inner _ _ _ _ _ _ _ _ =>
      cases readFlags state.flags [] false false inner with
      | error error => rfl
      | ok read =>
          simp only [bind, Except.bind]
          split
          · rfl
          · split <;> rfl

/-- A parenthesis that no question mark follows opens a plain group. -/
theorem readGroup_plain (notVerbose : state.flags.verbose = false)
    (plain : pattern.head? ≠ some '?') :
    state.readGroup pattern = .ok (state.openGroup state.flags, pattern) := by
  have skipped : state.flags.skip pattern = pattern := by
    rw [Flags.skip, notVerbose]
    rfl
  unfold readGroup
  rw [skipped]
  split
  case h_9 => rfl
  all_goals exact absurd rfl plain

theorem repeatLast_within (state : ReaderState) (outer : OpenGroup) (least : Nat)
    (most : Option Nat) :
    (state.within outer).repeatLast least most =
      (·.within outer) <$> state.repeatLast least most := by
  unfold repeatLast within
  dsimp only
  split
  · rfl
  · split <;> rfl

theorem closeGroup_within (state : ReaderState) (outer : OpenGroup) (inside : state.stack ≠ []) :
    (state.within outer).closeGroup = (·.within outer) <$> state.closeGroup := by
  cases opened : state.stack with
  | nil => exact absurd opened inside
  | cons group stack =>
      unfold closeGroup within
      simp only [opened]
      rfl

/-- Inside of a group, a piece is read as it would be outside, unless it closes the group. -/
theorem step_within (state : ReaderState) (outer : OpenGroup) {c : Char} (pattern : List Char)
    (inside : c = ')' → state.stack ≠ []) :
    (state.within outer).step (c :: pattern) =
      (fun read => (read.1.within outer, read.2)) <$> state.step (c :: pattern) := by
  unfold step
  simp only [within_flags, repeatLast_within]
  split
  · exact readGroup_within state outer pattern
  · rw [closeGroup_within state outer (inside rfl)]
    cases state.closeGroup <;> rfl
  · rfl
  · cases readBracket state.flags pattern <;> rfl
  case h_5 | h_6 | h_7 =>
    generalize state.repeatLast _ _ = repeated
    cases repeated <;> rfl
  · cases state.repeatLast 0 none with
    | error error => rfl
    | ok repeated =>
        cases readCounts state.flags pattern with
        | error error => rfl
        | ok counts =>
            simp only [bind, Except.bind]
            cases state.repeatLast counts.1 counts.2.1 <;> rfl
  · cases readEscape state.flags pattern with
    | error error => rfl
    | ok read =>
        simp only [bind, Except.bind]
        cases state.flags.escaped read.1 <;> rfl
  · cases state.flags.dot <;> rfl
  all_goals rfl

theorem step_suffix {c : Char} (read : state.step (c :: pattern) = .ok (next, rest)) :
    rest <:+ c :: pattern := by
  rcases cuts_step (List.replicate rest.length 'a') read with cuts | ⟨-, blanks, restEq, -⟩
  · exact cuts.suffix
  · have lengths := congrArg List.length restEq
    simp only [List.length_cons, List.length_append, List.length_replicate] at lengths
    omega

theorem exists_within (inside : state.stack ≠ []) :
    ∃ (inner : ReaderState) (outer : OpenGroup), state = inner.within outer := by
  refine ⟨{ state with stack := state.stack.dropLast }, state.stack.getLast inside, ?_⟩
  unfold within
  simp only [List.dropLast_concat_getLast]

theorem exists_step_of_within {c : Char} (inside : c = ')' → state.stack ≠ [])
    (read : (state.within outer).step (c :: pattern) = .ok (next, rest)) :
    ∃ inner, next = inner.within outer ∧ state.step (c :: pattern) = .ok (inner, rest) := by
  rw [step_within state outer pattern inside] at read
  cases stepped : state.step (c :: pattern) with
  | error error =>
      rw [stepped] at read
      cases read
  | ok result =>
      rw [stepped] at read
      cases read
      exact ⟨result.1, rfl, rfl⟩

/-- A piece that is no closing parenthesis leaves open what is open. -/
theorem stack_ne_nil_of_step {c : Char} (inside : state.stack ≠ []) (notClosing : c ≠ ')')
    (read : state.step (c :: pattern) = .ok (next, rest)) : next.stack ≠ [] := by
  obtain ⟨inner, outer, rfl⟩ := exists_within inside
  obtain ⟨inner, rfl, -⟩ := exists_step_of_within (fun closing => absurd closing notClosing) read
  simp

theorem readAll_of_step {c : Char} {behind : List Char}
    (found : state.flags.skip pattern = c :: behind)
    (stepped : state.step (c :: behind) = .ok (next, rest))
    (shorter : rest.length < pattern.length) : state.readAll pattern = next.readAll rest := by
  rw [readAll, found]
  simp only [stepped]
  exact if_pos shorter

/-- A pattern is read if it is at its end, or if its next piece and then the rest are. -/
theorem exists_step_of_readAll (read : state.readAll pattern = .ok piece) :
    (state.flags.skip pattern = [] ∧ state.stack = []) ∨
      ∃ c behind next rest, state.flags.skip pattern = c :: behind ∧
        state.step (c :: behind) = .ok (next, rest) ∧ rest.length < pattern.length ∧
        next.readAll rest = .ok piece := by
  rw [readAll] at read
  split at read
  · next ended =>
      split at read
      · next none => exact .inl ⟨ended, List.isEmpty_iff.1 none⟩
      · cases read
  · next c behind found =>
      obtain ⟨⟨next, rest⟩, stepped, read⟩ := bind_eq_ok_iff.1 read
      dsimp only at read
      split at read
      · next shorter => exact .inr ⟨c, behind, next, rest, found, stepped, shorter, read⟩
      · cases read

/-- Where all that is left is skipped, a brace begins no counts. -/
theorem readAll_brace_ne_ok {blanks : List Char} (skipped : state.flags.skip blanks = []) :
    state.readAll ('\x7b' :: blanks) ≠ .ok piece := by
  intro read
  rcases exists_step_of_readAll read with
    ⟨ended, -⟩ | ⟨c, behind, next, rest, found, stepped, -, -⟩
  · cases (skip_brace _ _).symm.trans ended
  · obtain ⟨rfl, rfl⟩ := List.cons.inj ((skip_brace _ _).symm.trans found)
    obtain ⟨_, -, stepped⟩ := bind_eq_ok_iff.1 stepped
    obtain ⟨_, countsRead, -⟩ := bind_eq_ok_iff.1 stepped
    obtain ⟨_, nonempty, -⟩ := bind_eq_ok_iff.1 countsRead
    exact (nonempty_eq_ok_iff.1 nonempty).2 skipped

/-- At a closing parenthesis a pattern can be cut. -/
theorem exists_front_of_skip {behind : List Char} (found : flags.skip pattern = ')' :: behind) :
    ∃ front, pattern = front ++ ')' :: behind ∧ flags.skip front = [] := by
  have skips := cuts_skip behind flags pattern
  obtain ⟨front, split⟩ := skips.suffix
  rw [found] at split skips
  rcases skips.cut front split.symm with taken | ⟨left, same, skipped⟩
  · exact absurd taken (Nat.not_succ_le_self _)
  · obtain rfl : left = [] := by simpa using same
    exact ⟨front, split.symm, skipped⟩

/-- What is read in front of a cut is read there by the next piece and then the rest. -/
theorem exists_front_of_step {c : Char} {behind left : List Char}
    (found : state.flags.skip pattern = c :: behind)
    (stepped : state.step (c :: behind) = .ok (next, left ++ ')' :: after))
    (shorter : (left ++ ')' :: after).length < pattern.length)
    (read : next.readAll left = .ok piece) :
    ∃ front, pattern = front ++ ')' :: after ∧ state.readAll front = .ok piece := by
  have skips := cuts_skip after state.flags pattern
  rw [found] at skips
  have ahead := step_suffix stepped
  have tooShort {size : Nat} (taken : size ≤ after.length)
      (atLeast : (left ++ ')' :: after).length ≤ size) : False := by
    simp only [List.length_append, List.length_cons] at atLeast
    omega
  obtain ⟨before, split⟩ := ahead.trans skips.suffix
  rw [← List.append_assoc] at split
  refine ⟨before ++ left, split.symm, ?_⟩
  rcases skips.cut _ split.symm with taken | ⟨front, same, skipped⟩
  · exact (tooShort taken ahead.length_le).elim
  rcases cuts_step after stepped with cuts | ⟨sameFlags, blanks, restEq, bare⟩
  · rcases cuts.cut front same with taken | ⟨_, restEq, again⟩
    · exact (tooShort taken (Nat.le_refl _)).elim
    obtain rfl := List.append_cancel_right restEq
    cases front with
    | nil =>
        obtain ⟨rfl, rfl⟩ := List.cons.inj same
        obtain ⟨_, -, closed⟩ := bind_eq_ok_iff.1 stepped
        have same := congrArg Prod.snd (Except.ok.inj closed)
        exact (tooShort (Nat.le_refl _) (congrArg List.length same).ge).elim
    | cons head front =>
        obtain ⟨rfl, -⟩ := List.cons.inj same
        rw [readAll_of_step skipped again ?_]
        · exact read
        · rw [← split] at shorter
          simpa using shorter
  · rw [← List.cons_append] at restEq
    obtain rfl := List.append_cancel_right restEq
    rw [← sameFlags] at bare
    exact absurd read (readAll_brace_ne_ok bare)

/-- What stands in a group up to the parenthesis that closes it is a pattern of its own. -/
theorem exists_front_of_within (read : (state.within outer).readAll pattern = .ok piece) :
    ∃ front behind inner, pattern = front ++ ')' :: behind ∧ state.readAll front = .ok inner := by
  induction length : pattern.length using Nat.strongRecOn generalizing pattern state with
  | ind size ih =>
      rcases exists_step_of_readAll read with
        ⟨-, none⟩ | ⟨c, behind, next, rest, found, stepped, shorter, goesOn⟩
      · simp at none
      rw [within_flags] at found
      by_cases closing : c = ')' ∧ state.stack = []
      · obtain ⟨rfl, none⟩ := closing
        obtain ⟨front, split, skipped⟩ := exists_front_of_skip found
        refine ⟨front, behind, state.contents.close, split, ?_⟩
        rw [readAll, skipped, none]
        rfl
      · have inside : c = ')' → state.stack ≠ [] := fun isParen none => closing ⟨isParen, none⟩
        obtain ⟨between, rfl, insideStep⟩ := exists_step_of_within inside stepped
        obtain ⟨left, after, inner, rfl, innerRead⟩ := ih _ (length ▸ shorter) goesOn rfl
        obtain ⟨front, split, frontRead⟩ := exists_front_of_step found insideStep shorter innerRead
        exact ⟨front, after, inner, split, frontRead⟩

/-- Without a closing parenthesis, no group is closed. -/
theorem readAll_ne_ok_of_unclosed (inside : state.stack ≠ [])
    (unclosed : ')' ∉ state.flags.skip pattern) : state.readAll pattern ≠ .ok piece := by
  induction length : pattern.length using Nat.strongRecOn generalizing pattern state with
  | ind size ih =>
      intro read
      rcases exists_step_of_readAll read with
        ⟨-, none⟩ | ⟨c, behind, next, rest, found, stepped, shorter, read⟩
      · exact inside none
      · rw [found] at unclosed
        have notClosing : c ≠ ')' := by
          rintro rfl
          exact unclosed List.mem_cons_self
        have opened := stack_ne_nil_of_step inside notClosing stepped
        refine ih _ (length ▸ shorter) opened ?_ rfl read
        have skipped := (cuts_skip [] next.flags rest).suffix
        exact fun member => unclosed ((step_suffix stepped).subset (skipped.subset member))

/-- The state behind a group. -/
def afterGroup (outer : OpenGroup) (inner : Piece) (names : List String) : ReaderState where
  flags := outer.flags
  contents := outer.contents.add { inner with depth := inner.depth + 1 }
  names

section Cut

variable (unclosed : ')' ∉ after)

include unclosed

/-- Inside of a group, the parenthesis that closes it cannot have been taken. -/
theorem readAll_ne_ok_of_taken (inside : state.stack ≠ []) (taken : rest <:+ after) :
    state.readAll rest ≠ .ok piece := by
  have skipped := (cuts_skip [] state.flags rest).suffix
  exact readAll_ne_ok_of_unclosed inside
    fun member => unclosed ((skipped.trans taken).subset member)

/-- Where the front has nothing behind a brace, the brace begins no counts. -/
theorem readAll_ne_ok_of_bareBrace (bare : BareBrace after state.flags rest) :
    (state.within outer).readAll rest ≠ .ok piece := by
  intro read
  obtain ⟨blanks, rfl, skipped⟩ := bare
  rcases exists_step_of_readAll read with
    ⟨-, none⟩ | ⟨c, behind, next, rest, found, stepped, shorter, read⟩
  · simp at none
  · obtain ⟨rfl, rfl⟩ := List.cons.inj ((skip_brace _ _).symm.trans found)
    obtain ⟨inner, rfl, stepped⟩ :=
      exists_step_of_within (fun same => absurd same (by decide)) stepped
    obtain ⟨_, -, stepped⟩ := bind_eq_ok_iff.1 stepped
    obtain ⟨⟨least, most, rest⟩, countsRead, stepped⟩ := bind_eq_ok_iff.1 stepped
    obtain ⟨_, -, stepped⟩ := bind_eq_ok_iff.1 stepped
    cases stepped
    have cuts : Cuts after 0 _ _ _ := cuts_readCounts countsRead
    rcases cuts.cut blanks rfl with taken | ⟨left, -, again⟩
    · exact readAll_ne_ok_of_taken unclosed (by simp) (cuts.suffix_taken blanks rfl taken) read
    · obtain ⟨_, nonempty, -⟩ := bind_eq_ok_iff.1 again
      exact (nonempty_eq_ok_iff.1 nonempty).2 skipped

/-- At the end of a pattern, the parenthesis that was meant to close the group does so. -/
theorem readAll_of_closeGroup (ended : state.flags.skip pattern = [])
    (closes : (state.within outer).closeGroup = .ok next)
    (goesOn : next.readAll after = .ok piece) :
    ∃ inner names, state.readAll pattern = .ok inner ∧
      (afterGroup outer inner names).readAll after = .ok piece := by
  cases opened : state.stack with
  | nil =>
      rw [closeGroup, within_stack, opened] at closes
      cases closes
      refine ⟨state.contents.close, state.names, ?_, goesOn⟩
      rw [readAll, ended, opened]
      rfl
  | cons group stack =>
      rw [closeGroup, within_stack, opened] at closes
      cases closes
      have stillOpen : stack ++ [outer] ≠ [] := by simp
      exact absurd goesOn (readAll_ne_ok_of_taken unclosed stillOpen (List.suffix_refl _))

/-- A pattern in a group is read as it would be read alone, unless it closes the group itself. -/
theorem readAll_within (read : (state.within outer).readAll (pattern ++ ')' :: after) = .ok piece) :
    state.readAll pattern = .error .groupUnopened ∨
      ∃ inner names, state.readAll pattern = .ok inner ∧
        (afterGroup outer inner names).readAll after = .ok piece := by
  induction length : pattern.length using Nat.strongRecOn generalizing pattern state with
  | ind size ih =>
      have inside : (state.within outer).stack ≠ [] := by simp
      have skips := cuts_skip after state.flags (pattern ++ ')' :: after)
      rcases exists_step_of_readAll read with
        ⟨-, none⟩ | ⟨c, behind, next, rest, found, stepped, shorter, goesOn⟩
      · exact absurd none inside
      rw [within_flags] at found
      rw [found] at skips
      rcases skips.cut pattern rfl with taken | ⟨left, split, skipped⟩
      · -- a comment that takes the parenthesis leaves the group open
        have skippedPast := skips.suffix_taken pattern rfl taken
        rw [← found] at skippedPast
        exact absurd read
          (readAll_ne_ok_of_unclosed inside fun member => unclosed (skippedPast.subset member))
      cases left with
      | nil =>
          obtain ⟨rfl, rfl⟩ := List.cons.inj split
          obtain ⟨closed, closes, stepped⟩ := bind_eq_ok_iff.1 stepped
          cases stepped
          exact .inr (readAll_of_closeGroup unclosed skipped closes goesOn)
      | cons first left =>
          obtain ⟨rfl, rfl⟩ := List.cons.inj split
          by_cases closing : c = ')' ∧ state.stack = []
          · obtain ⟨rfl, none⟩ := closing
            left
            rw [readAll, skipped]
            simp only [step, closeGroup, none]
            rfl
          · have inside : c = ')' → state.stack ≠ [] := fun isParen none => closing ⟨isParen, none⟩
            obtain ⟨inner, rfl, insideStep⟩ := exists_step_of_within inside stepped
            have opened : (inner.within outer).stack ≠ [] := by simp
            rcases cuts_step after insideStep with cuts | ⟨sameFlags, bare⟩
            · rcases cuts.cut (c :: left) rfl with taken | ⟨left', rfl, again⟩
              · -- so does a piece that takes it
                have past := cuts.suffix_taken (c :: left) rfl taken
                exact absurd goesOn (readAll_ne_ok_of_taken unclosed opened past)
              · have shorter : left'.length < pattern.length := by
                  simpa using shorter
                rw [readAll_of_step skipped again shorter]
                exact ih _ (length ▸ shorter) goesOn rfl
            · rw [← sameFlags] at bare
              exact absurd goesOn (readAll_ne_ok_of_bareBrace unclosed bare)

end Cut

end ReaderState

section Words

open Builtin (wholeWords)

/-- An expression that has to begin and to end where a word begins or ends. -/
def Expression.wholeWords (expression : Expression) : Expression :=
  .sequence (.look (.wordBoundary false))
    (.sequence expression (.sequence (.look (.wordBoundary false)) .empty))

variable {ignoreCase : Bool}

theorem readAll_boundary (contents : GroupContents) (names : List String) :
    ReaderState.readAll { flags := { ignoreCase }, contents, names } ['\\', 'b'] =
      .ok (contents.add { expression := .look (.wordBoundary false) }).close := by
  have stepped : ReaderState.step { flags := { ignoreCase }, contents, names } ['\\', 'b'] =
      .ok (ReaderState.add { flags := { ignoreCase }, contents, names }
        { expression := .look (.wordBoundary false) }, []) := rfl
  rw [ReaderState.readAll_of_step rfl stepped (by decide), ReaderState.readAll]
  rfl

/-- What stands in front of the group of whole words. -/
def boundaryGroup (ignoreCase : Bool) : OpenGroup where
  flags := { ignoreCase }
  contents := { pieces := [{ expression := .look (.wordBoundary false) }] }

/-- A parenthesis behind a boundary opens a group, unless it begins like a special one. -/
theorem readAll_boundaryGroup (plain : pattern.head? ≠ some '?') :
    ReaderState.readAll { flags := { ignoreCase } } ('\\' :: 'b' :: '(' :: pattern) =
      (ReaderState.within { flags := { ignoreCase } } (boundaryGroup ignoreCase)).readAll
        pattern := by
  have first : ReaderState.step { flags := { ignoreCase } } ('\\' :: 'b' :: '(' :: pattern) =
      .ok ({ flags := { ignoreCase }, contents := (boundaryGroup ignoreCase).contents },
        '(' :: pattern) := rfl
  have second : ReaderState.step
      { flags := { ignoreCase }, contents := (boundaryGroup ignoreCase).contents }
      ('(' :: pattern) =
      .ok (ReaderState.within { flags := { ignoreCase } } (boundaryGroup ignoreCase), pattern) :=
    ReaderState.readGroup_plain rfl plain
  rw [ReaderState.readAll_of_step rfl first (by simp),
    ReaderState.readAll_of_step rfl second (by simp)]

theorem readAll_wholeWords {pattern : String} (plain : pattern.toList.head? ≠ some '?') :
    ReaderState.readAll { flags := { ignoreCase } } (wholeWords pattern).toList =
      (ReaderState.within { flags := { ignoreCase } } (boundaryGroup ignoreCase)).readAll
        (pattern.toList ++ ')' :: ['\\', 'b']) := by
  have chars : (wholeWords pattern).toList =
      '\\' :: 'b' :: '(' :: (pattern.toList ++ ')' :: ['\\', 'b']) := by
    simp [wholeWords]
  rw [chars, readAll_boundaryGroup]
  cases chars : pattern.toList with
  | nil => simp
  | cons c rest => simpa [chars] using plain

/-- What stands in the boundaries is not deeper than the whole, nor does it take more space. -/
theorem within_limits (inner : Piece)
    (shallow : ¬ nestLimit < ((((boundaryGroup ignoreCase).contents.add
      { inner with depth := inner.depth + 1 }).add
        { expression := .look (.wordBoundary false) }).close).depth)
    (small : ¬ sizeLimit < inner.expression.wholeWords.cost) :
    ¬ nestLimit < inner.depth ∧ ¬ sizeLimit < inner.expression.cost := by
  constructor
  · have deeper : inner.depth ≤ ((((boundaryGroup ignoreCase).contents.add
        { inner with depth := inner.depth + 1 }).add
          { expression := .look (.wordBoundary false) }).close).depth := by
      simp only [boundaryGroup, GroupContents.add, GroupContents.close, GroupContents.next,
        GroupContents.alternative, List.foldl_cons, List.foldl_nil]
      omega
    omega
  · rw [Expression.wholeWords] at small
    simp only [Expression.cost] at small
    omega

/-- A pattern that can stand for whole words is read alike for itself, or it is malformed. -/
theorem parse_wholeWords {pattern : String} {expression : Expression}
    (parsed : parse (wholeWords pattern) ignoreCase = .ok expression) :
    (∃ error, parse pattern ignoreCase = .error error ∧ error.isLimit = false) ∨
      ∃ inner, parse pattern ignoreCase = .ok inner ∧ expression = inner.wholeWords := by
  by_cases special : pattern.toList.head? = some '?'
  · obtain ⟨rest, chars⟩ := List.head?_eq_some_iff.1 special
    refine .inl ⟨.repetitionMissing, ?_, rfl⟩
    rw [parse, chars, ReaderState.readAll]
    rfl
  unfold parse at parsed
  dsimp only at parsed
  rw [readAll_wholeWords special] at parsed
  obtain ⟨piece, read, limited⟩ := bind_eq_ok_iff.1 parsed
  rcases ReaderState.readAll_within (by decide) read with
    unopened | ⟨inner, names, innerRead, rest⟩
  · refine .inl ⟨.groupUnopened, ?_, rfl⟩
    rw [parse, unopened]
    rfl
  · obtain rfl := Except.ok.inj ((readAll_boundary _ names).symm.trans rest)
    split at limited
    · cases limited
    · next shallow =>
        split at limited
        · cases limited
        · next small =>
            cases limited
            obtain ⟨shallow, small⟩ := within_limits inner shallow small
            refine .inr ⟨inner.expression, ?_, rfl⟩
            rw [parse, innerRead]
            change (if nestLimit < inner.depth then _ else _) = _
            rw [if_neg shallow, if_neg small]

/-- A group behind a boundary is closed somewhere, and what stands in it is well formed. -/
theorem parse_boundaryGroup {rest : String} {expression : Expression}
    (plain : rest.toList.head? ≠ some '?')
    (parsed : parse ("\\b(" ++ rest) ignoreCase = .ok expression) :
    ∃ front behind, rest = front ++ ")" ++ behind ∧
      ∀ error, parse front ignoreCase = .error error → error.isLimit = true := by
  have chars : ("\\b(" ++ rest).toList = '\\' :: 'b' :: '(' :: rest.toList := by simp
  unfold parse at parsed
  dsimp only at parsed
  rw [chars, readAll_boundaryGroup plain] at parsed
  obtain ⟨piece, read, -⟩ := bind_eq_ok_iff.1 parsed
  obtain ⟨front, behind, inner, split, innerRead⟩ := ReaderState.exists_front_of_within read
  refine ⟨.ofList front, .ofList behind, String.toList_injective ?_, fun error refused => ?_⟩
  · simpa using split
  · rw [parse, String.toList_ofList, innerRead] at refused
    change (if nestLimit < inner.depth then _ else if _ then _ else _) = _ at refused
    split at refused
    · cases refused
      rfl
    · split at refused <;> cases refused
      rfl

end Words

end Regex
end CommandShell
