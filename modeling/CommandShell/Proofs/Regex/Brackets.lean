import CommandShell.Proofs.Regex.Reading

/-!
# Reading brackets that are cut short

What opens a bracket is of no use without the one that closes it.  If that one is in front of the
closing parenthesis that a pattern is cut at, the class is read of the front just the same.
-/

namespace CommandShell
namespace Regex

variable {after pattern rest : List Char} {flags : Flags}

theorem cuts_readDashes (after : List Char) (flags : Flags) (dashes pattern : List Char) :
    Cuts after 0
      (fun front left => readBracketOpening.readDashes flags dashes front =
        ((readBracketOpening.readDashes flags dashes pattern).1, left))
      pattern (readBracketOpening.readDashes flags dashes pattern).2 := by
  induction pattern generalizing dashes with
  | nil => exact .nil
  | cons c pattern ih =>
      by_cases isDash : c = '-'
      · subst isDash
        refine Cuts.cons (ih ('-' :: dashes)) fun middle left again => ?_
        exact again
      · simp only [readBracketOpening.readDashes]
        split
        · next skipped =>
            refine Cuts.cons (ih dashes) fun middle left again => ?_
            simp only [readBracketOpening.readDashes, if_pos skipped, again]
        · next stops =>
            refine .stop rfl fun left => ?_
            simp only [readBracketOpening.readDashes, if_neg stops]

/-- Read the characters that stand for themselves at the beginning of a class, behind the sign that
negates it. -/
def readLiterals (flags : Flags) (negated : Bool) (pattern : List Char) :
    Except SyntaxError (Bool × List Char × List Char) :=
  let (dashes, pattern) := readBracketOpening.readDashes flags [] pattern
  match dashes, pattern with
  | _, [] => .error .classUnclosed
  | [], ']' :: rest =>
      match flags.skip rest with
      | [] => .error .classUnclosed
      | rest => .ok (negated, [']'], rest)
  | dashes, rest => .ok (negated, dashes, rest)

theorem readBracketOpening_eq (flags : Flags) (pattern : List Char) :
    readBracketOpening flags pattern =
      match flags.skip pattern with
      | '^' :: inner => readLiterals flags true (flags.skip inner)
      | inner => readLiterals flags false inner := by
  unfold readBracketOpening
  generalize flags.skip pattern = skipped
  cases skipped with
  | nil => rfl
  | cons c inner =>
      by_cases caret : c = '^'
      · subst caret
        rfl
      · have positive : ∀ behind, c :: inner = '^' :: behind → False :=
          fun _ same => caret (List.cons.inj same).1
        simp only
        rfl

theorem cuts_readLiterals {negated opened : Bool} {literals : List Char}
    (read : readLiterals flags negated pattern = .ok (opened, literals, rest)) :
    Cuts after 1
      (fun front left => readLiterals flags negated front = .ok (opened, literals, left))
      pattern rest := by
  have dashes := (cuts_readDashes after flags [] pattern).loosen
  unfold readLiterals at read
  dsimp only at read
  split at read
  · cases read
  · next behind noDash found =>
      rw [noDash, found] at dashes
      have skips := (cuts_skip after flags behind).loosen
      split at read
      · cases read
      · next some =>
          cases read
          refine (dashes.trans ((Cuts.char _).trans (skips.trans .next))).mono ?_
          rintro front _ ⟨_, dashesRead, middle, rfl, left, skipped, rfl, some, -⟩
          simp only [readLiterals, dashesRead, skipped]
  · next some noLiteral =>
      cases read
      refine (dashes.trans .next).mono ?_
      rintro front _ ⟨left, dashesRead, rfl, some, split⟩
      have noLiteral : ∀ behind, (readBracketOpening.readDashes flags [] pattern).1 = [] →
          left = ']' :: behind → False :=
        fun behind noDash => absent_char (fun _ => noLiteral _ noDash) split behind
      simp only [readLiterals, dashesRead]

theorem cuts_readBracketOpening {negated : Bool} {literals : List Char}
    (read : readBracketOpening flags pattern = .ok (negated, literals, rest)) :
    Cuts after 1
      (fun front left => readBracketOpening flags front = .ok (negated, literals, left))
      pattern rest := by
  have skips := (cuts_skip after flags pattern).loosen
  rw [readBracketOpening_eq] at read
  split at read
  · next inner next =>
      have behind := (cuts_skip after flags inner).loosen
      rw [next] at skips
      refine (skips.trans ((Cuts.char _).trans (behind.trans (cuts_readLiterals read)))).mono ?_
      rintro front left ⟨_, skipped, middle, rfl, _, again, opened⟩
      simp only [readBracketOpening_eq, skipped, again, opened]
  · next positive =>
      refine (skips.trans (Cuts.next.trans (cuts_readLiterals read))).mono ?_
      rintro front left ⟨middle, skipped, _, ⟨rfl, some, split⟩, opened⟩
      have positive := absent_char positive split
      simp only [readBracketOpening_eq, skipped, opened]

/-- Read the name of a set and the marks that end it, behind the sign that negates the set. -/
def readSetName (flags : Flags) (negated : Bool) (pattern : List Char) :
    Option (Except SyntaxError CharSet × List Char) :=
  let name := pattern.takeWhile (· != ':')
  match pattern.dropWhile (· != ':') with
  | ':' :: ']' :: rest =>
      match CharSet.named? (String.ofList name) with
      | some set => some (flags.enclose negated set, rest)
      | none => none
  | _ => none

theorem readNamedSet_eq (flags : Flags) (pattern : List Char) :
    readNamedSet flags pattern =
      match pattern with
      | ':' :: '^' :: inner => readSetName flags true inner
      | ':' :: inner => readSetName flags false inner
      | _ => none := by
  unfold readNamedSet
  split
  · next inner =>
      cases inner with
      | nil => rfl
      | cons c inner =>
          by_cases caret : c = '^'
          · subst caret
            rfl
          · have positive : ∀ behind, c :: inner = '^' :: behind → False :=
              fun _ same => caret (List.cons.inj same).1
            simp only
            rfl
  · next noMark =>
      split
      · next inner => exact absurd rfl (noMark _)
      · next inner _ => exact absurd rfl (noMark inner)
      · rfl

section NamedSets

variable {negated : Bool} {set : Except SyntaxError CharSet}

theorem cuts_readSetName (read : readSetName flags negated pattern = some (set, rest)) :
    Cuts after 0 (fun front left => readSetName flags negated front = some (set, left))
      pattern rest := by
  have ends := cuts_dropWhile after (· != ':') pattern
  unfold readSetName at read
  dsimp only at read
  split at read
  · next behind found =>
      rw [found] at ends
      split at read
      · next members named =>
          cases read
          refine (ends.trans ((Cuts.char _).trans (Cuts.char _))).mono ?_
          rintro front left ⟨_, ⟨sameName, again⟩, _, rfl, rfl⟩
          simp only [readSetName, again, sameName, named]
      · cases read
  · cases read

theorem readSetName_append {behind : List Char}
    (read : readSetName flags negated pattern = some (set, rest)) :
    readSetName flags negated (pattern ++ behind) = some (set, rest ++ behind) := by
  unfold readSetName at read
  dsimp only at read
  split at read
  · next closing found =>
      have name : ∀ c ∈ pattern.takeWhile (· != ':'), (c != ':') = true :=
        List.all_eq_true.1 List.all_takeWhile
      have patternEq : pattern = pattern.takeWhile (· != ':') ++ ':' :: ']' :: closing := by
        rw [← found, List.takeWhile_append_dropWhile]
      generalize pattern.takeWhile (· != ':') = taken at name patternEq read
      subst patternEq
      split at read
      · next members named =>
          cases read
          simp [readSetName, List.append_assoc, List.takeWhile_append_of_pos name,
            List.dropWhile_append_of_pos name, named]
      · cases read
  · cases read

theorem cuts_readNamedSet (read : readNamedSet flags pattern = some (set, rest)) :
    Cuts after 0 (fun front left => readNamedSet flags front = some (set, left)) pattern rest := by
  rw [readNamedSet_eq] at read
  split at read
  · refine ((Cuts.char _).trans ((Cuts.char _).trans (cuts_readSetName read))).mono ?_
    rintro _ left ⟨_, rfl, middle, rfl, again⟩
    rw [readNamedSet_eq]
    exact again
  · next inner positive =>
      refine ((Cuts.char _).trans (Cuts.here.trans (cuts_readSetName read))).mono ?_
      rintro _ left ⟨middle, rfl, _, ⟨rfl, split⟩, again⟩
      have positive := absent_char positive split
      simp only [readNamedSet_eq, again]
  · cases read

theorem readNamedSet_append {behind : List Char}
    (read : readNamedSet flags pattern = some (set, rest)) :
    readNamedSet flags (pattern ++ behind) = some (set, rest ++ behind) := by
  rw [readNamedSet_eq] at read ⊢
  split at read
  · exact readSetName_append read
  · next inner positive =>
      cases inner with
      | nil => cases read
      | cons c inner =>
          have positive : ∀ rest, c :: (inner ++ behind) = '^' :: rest → False :=
            fun _ same => positive inner (congrArg (· :: inner) (List.cons.inj same).1)
          simp only [List.cons_append]
          exact readSetName_append read
  · cases read

end NamedSets

theorem cuts_readBracketItem (after : List Char) {item : Escape}
    (read : readBracketItem flags pattern = .ok (item, rest)) :
    Cuts after 0 (fun front left => readBracketItem flags front = .ok (item, left)) pattern rest ∨
      ∃ condition, item = .look condition := by
  unfold readBracketItem at read
  split at read
  · cases read
  · next escaped =>
      rcases cuts_readEscape after read with cuts | ⟨-, isLook⟩
      · refine .inl (Cuts.cons cuts fun middle left again => ?_)
        exact again
      · exact .inr isLook
  · next c behind noBackslash =>
      cases read
      refine .inl (Cuts.last fun left => ?_)
      simp only [readBracketItem]

/-- A condition is no item of a class. -/
theorem cuts_readBracketItem_of_set (after : List Char) {item : Escape} {set : CharSet}
    (read : readBracketItem flags pattern = .ok (item, rest)) (isSet : setOf flags item = .ok set) :
    Cuts after 0 (fun front left => readBracketItem flags front = .ok (item, left))
      pattern rest := by
  rcases cuts_readBracketItem after read with cuts | ⟨condition, rfl⟩
  · exact cuts
  · cases isSet

theorem cuts_readBracketItem_of_bound (after : List Char) {item : Escape} {bound : Char}
    (read : readBracketItem flags pattern = .ok (item, rest))
    (isBound : boundOf flags item = .ok bound) :
    Cuts after 0 (fun front left => readBracketItem flags front = .ok (item, left))
      pattern rest := by
  rcases cuts_readBracketItem after read with cuts | ⟨condition, rfl⟩
  · exact cuts
  · cases isBound

/-- What stands behind a dash is seen in the front too, unless it stands behind the cut. -/
theorem Cuts.ahead {dash c : Char} {behind : List Char} (found : flags.skip pattern = c :: behind)
    (notParen : c ≠ ')') (far : after.length ≤ behind.length) :
    Cuts after 1
      (fun front left => front = left ∧ ∃ inner behind, left = dash :: inner ∧
        flags.skip inner = c :: behind)
      (dash :: pattern) (dash :: pattern) where
  suffix := List.suffix_refl _
  cut front split := by
    cases front with
    | nil => exact .inl (split ▸ Nat.le_refl _)
    | cons head front =>
        obtain ⟨rfl, innerEq⟩ := List.cons.inj split
        have skips := cuts_skip after flags pattern
        rw [found] at skips
        rcases skips.cut front innerEq with taken | ⟨left, restEq, skipped⟩
        · rw [List.length_cons] at taken
          omega
        · cases left with
          | nil => exact absurd (List.cons.inj restEq).1 notParen
          | cons first left =>
              obtain ⟨rfl, -⟩ := List.cons.inj restEq
              exact .inr ⟨_, split, rfl, front, left, rfl, skipped⟩

/-- A dash that stands for itself because of what comes behind the cut. -/
def BareDash (after : List Char) (flags : Flags) (rest : List Char) : Prop :=
  ∃ c behind left, rest = '-' :: behind ∧ flags.skip behind = c :: left ∧ (c = ']' ∨ c = '-') ∧
    left.length < after.length

section Ranges

theorem cuts_readBracketRange (after : List Char) {set : CharSet}
    (read : readBracketRange flags pattern = .ok (set, rest)) :
    Cuts after 1 (fun front left => readBracketRange flags front = .ok (set, left))
        pattern rest ∨
      BareDash after flags rest := by
  unfold readBracketRange at read
  obtain ⟨⟨first, behind⟩, firstRead, read⟩ := bind_eq_ok_iff.1 read
  dsimp only at read
  have skips := (cuts_skip after flags behind).loosen
  split at read
  · cases read
  · next afterDash dash =>
      rw [dash] at skips
      split at read
      · cases read
      case h_2 | h_3 =>
        next ahead found =>
          obtain ⟨members, isSet, read⟩ := bind_eq_ok_iff.1 read
          cases read
          by_cases near : ahead.length < after.length
          · exact .inr ⟨_, afterDash, ahead, rfl, found, by simp, near⟩
          left
          have item :=
            (cuts_readBracketItem_of_set after firstRead isSet).loosen
          have far := Nat.not_lt.1 near
          refine (item.trans (skips.trans (.ahead found (by decide) far))).mono ?_
          rintro front _ ⟨middle, firstAgain, left, skipped, rfl, inner, behind, rfl, next⟩
          refine bind_eq_ok_iff.2 ⟨_, firstAgain, ?_⟩
          simp only [skipped, next]
          exact bind_eq_ok_iff.2 ⟨_, isSet, rfl⟩
      · next some noBracket noDash =>
          obtain ⟨⟨last, behind⟩, lastRead, read⟩ := bind_eq_ok_iff.1 read
          obtain ⟨lower, isLower, read⟩ := bind_eq_ok_iff.1 read
          obtain ⟨upper, isUpper, read⟩ := bind_eq_ok_iff.1 read
          split at read
          · next ordered =>
              cases read
              have item :=
                (cuts_readBracketItem_of_bound after firstRead isLower).loosen
              have other :=
                (cuts_readBracketItem_of_bound after lastRead isUpper).loosen
              have again := (cuts_skip after flags afterDash).loosen
              refine .inl ((item.trans (skips.trans
                ((Cuts.char _).trans (again.trans (Cuts.next.trans other))))).mono ?_)
              rintro front left ⟨_, firstAgain, _, skipped, inner, rfl, middle, next, _,
                ⟨rfl, some, split⟩, lastAgain⟩
              have noBracket := absent_char noBracket split
              have noDash := absent_char noDash split
              refine bind_eq_ok_iff.2 ⟨_, firstAgain, ?_⟩
              simp only [skipped, next]
              refine bind_eq_ok_iff.2 ⟨_, lastAgain, bind_eq_ok_iff.2 ⟨_, isLower, ?_⟩⟩
              refine bind_eq_ok_iff.2 ⟨_, isUpper, ?_⟩
              rw [if_pos ordered]
              rfl
          · cases read
  · next some single =>
      obtain ⟨members, isSet, read⟩ := bind_eq_ok_iff.1 read
      cases read
      have item :=
        (cuts_readBracketItem_of_set after firstRead isSet).loosen
      refine .inl ((item.trans (skips.trans .next)).mono ?_)
      rintro front _ ⟨middle, firstAgain, left, skipped, rfl, some, split⟩
      have single := absent_char single split
      refine bind_eq_ok_iff.2 ⟨_, firstAgain, ?_⟩
      simp only [skipped]
      exact bind_eq_ok_iff.2 ⟨_, isSet, rfl⟩

/-- Going on inside of brackets, reading comes close to the cut or does the same in the front. -/
theorem cuts_bracketStep_more (after : List Char) {state state' : BracketState}
    (read : bracketStep flags state pattern = .ok (.more state' rest)) :
    Cuts after 1 (fun front left => bracketStep flags state front = .ok (.more state' left))
        pattern rest ∨
      BareDash after flags rest := by
  have skips := (cuts_skip after flags pattern).loosen
  unfold bracketStep at read
  split at read
  · cases read
  · next inner opened =>
      rw [opened] at skips
      split at read
      · next set behind named =>
          obtain ⟨members, isSet, read⟩ := bind_eq_ok_iff.1 read
          cases read
          refine .inl ((skips.trans ((Cuts.char _).trans (cuts_readNamedSet named).loosen)).mono ?_)
          rintro front left ⟨_, skipped, middle, rfl, again⟩
          simp only [bracketStep, skipped, again]
          exact bind_eq_ok_iff.2 ⟨_, isSet, rfl⟩
      · next unnamed =>
          obtain ⟨⟨negated, literals, behind⟩, openingRead, read⟩ := bind_eq_ok_iff.1 read
          cases read
          refine .inl ((skips.trans ((Cuts.char _).trans
            (Cuts.here.trans (cuts_readBracketOpening openingRead)))).mono ?_)
          rintro front left ⟨_, skipped, inner, rfl, _, ⟨rfl, split⟩, again⟩
          cases named : readNamedSet flags inner with
          | none =>
              simp only [bracketStep, skipped, named]
              exact bind_eq_ok_iff.2 ⟨_, again, rfl⟩
          | some found =>
              rw [split, readNamedSet_append named] at unnamed
              cases unnamed
  · next inner closed =>
      rw [closed] at skips
      split at read
      · cases read
      · next bracket stack isStack =>
          obtain ⟨set, encloses, read⟩ := bind_eq_ok_iff.1 read
          split at read
          · cases read
          · next outer =>
              cases read
              refine .inl ((skips.trans (Cuts.char _)).mono ?_)
              rintro front left ⟨_, skipped, rfl⟩
              simp only [bracketStep, skipped, isStack]
              refine bind_eq_ok_iff.2 ⟨_, encloses, ?_⟩
              rw [if_neg outer]
              rfl
  case h_4 | h_5 | h_6 =>
    next inner operator =>
      cases read
      rw [operator] at skips
      refine .inl ((skips.trans ((Cuts.char _).trans (Cuts.char _))).mono ?_)
      rintro front left ⟨_, skipped, _, rfl, rfl⟩
      simp only [bracketStep, skipped]
  · next some noOpening noClosing noAnd noMinus noTilde =>
      obtain ⟨⟨set, behind⟩, rangeRead, read⟩ := bind_eq_ok_iff.1 read
      cases read
      rcases cuts_readBracketRange after rangeRead with cuts | bare
      · refine .inl ((skips.trans (Cuts.next.trans cuts)).mono ?_)
        rintro front left ⟨middle, skipped, _, ⟨rfl, some, split⟩, again⟩
        have noOpening := absent_char noOpening split
        have noClosing := absent_char noClosing split
        have noAnd := absent_pair noAnd split
        have noMinus := absent_pair noMinus split
        have noTilde := absent_pair noTilde split
        simp only [bracketStep, skipped]
        exact bind_eq_ok_iff.2 ⟨_, again, rfl⟩
      · exact .inr bare

theorem bracketStep_suffix {state state' : BracketState}
    (read : bracketStep flags state pattern = .ok (.more state' rest)) : rest <:+ pattern := by
  rcases cuts_bracketStep_more [] read with cuts | ⟨_, _, _, -, -, -, none⟩
  · exact cuts.suffix
  · exact absurd none (Nat.not_lt_zero _)

theorem cuts_bracketStep_closed (after : List Char) {state : BracketState} {set : CharSet}
    (read : bracketStep flags state pattern = .ok (.closed set rest)) :
    flags.skip pattern = ']' :: rest ∧
      Cuts after 0 (fun front left => bracketStep flags state front = .ok (.closed set left))
        pattern rest := by
  have skips := cuts_skip after flags pattern
  unfold bracketStep at read
  split at read
  · cases read
  · split at read
    · obtain ⟨_, -, ⟨⟩⟩ := bind_eq_ok_iff.1 read
    · obtain ⟨_, -, ⟨⟩⟩ := bind_eq_ok_iff.1 read
  · next inner closed =>
      rw [closed] at skips
      split at read
      · cases read
      · next bracket stack isStack =>
          obtain ⟨set, encloses, read⟩ := bind_eq_ok_iff.1 read
          split at read
          · next last =>
              cases read
              refine ⟨closed, (skips.trans (Cuts.char _)).mono ?_⟩
              rintro front left ⟨_, skipped, rfl⟩
              simp only [bracketStep, skipped, isStack]
              refine bind_eq_ok_iff.2 ⟨_, encloses, ?_⟩
              rw [if_pos last]
              rfl
          · cases read
  case h_4 | h_5 | h_6 => cases read
  · obtain ⟨_, -, ⟨⟩⟩ := bind_eq_ok_iff.1 read

/-- Where a bracket has to close what was begun, reading takes the closing parenthesis if it has
come close to it. -/
theorem Cuts.closed {first second : List Char → List Char → Prop} {behind : List Char}
    (begun : Cuts after 1 first pattern behind) (closes : ']' :: rest <:+ behind)
    (later : Cuts after 0 second behind rest) :
    Cuts after 0 (fun front left => ∃ middle, first front middle ∧ second middle left)
      pattern rest where
  suffix := later.suffix.trans begun.suffix
  cut front split := by
    rcases begun.cut front split with near | ⟨middle, behindEq, before⟩
    · exact .inl (Nat.le_of_succ_le_succ (Nat.le_trans closes.length_le near))
    · refine (later.cut middle behindEq).imp_right ?_
      rintro ⟨left, restEq, behind⟩
      exact ⟨left, restEq, middle, before, behind⟩

theorem readBracketRest_closes {depth deepest : Nat} {state : BracketState} {set : CharSet}
    (read : readBracketRest flags depth state pattern = .ok (set, deepest, rest)) :
    ']' :: rest <:+ pattern := by
  induction length : pattern.length using Nat.strongRecOn generalizing pattern depth state with
  | ind size ih =>
      rw [readBracketRest] at read
      obtain ⟨result, stepped, read⟩ := bind_eq_ok_iff.1 read
      cases result with
      | closed members behind =>
          cases read
          have skips := (cuts_skip [] flags pattern).suffix
          rwa [(cuts_bracketStep_closed [] stepped).1] at skips
      | more state' behind =>
          dsimp only at read
          split at read
          · next shorter =>
              exact (ih _ (length ▸ shorter) read rfl).trans (bracketStep_suffix stepped)
          · cases read

theorem skip_dash (flags : Flags) (pattern : List Char) :
    flags.skip ('-' :: pattern) = '-' :: pattern := by
  unfold Flags.skip
  split <;> rfl

/-- Such a dash is read with what comes behind the cut. -/
theorem BareDash.taken_of_range {set : CharSet} (bare : BareDash after flags pattern)
    (read : readBracketRange flags pattern = .ok (set, rest)) : rest.length ≤ after.length := by
  obtain ⟨c, behind, left, rfl, found, mark, near⟩ := bare
  have dash : readBracketItem flags ('-' :: behind) = .ok (.literal '-', behind) := rfl
  unfold readBracketRange at read
  obtain ⟨_, firstRead, read⟩ := bind_eq_ok_iff.1 read
  cases dash.symm.trans firstRead
  dsimp only at read
  split at read
  · cases read
  · next afterDash next =>
      obtain ⟨rfl, rfl⟩ := List.cons.inj (found.symm.trans next)
      split at read
      · cases read
      case h_2 | h_3 =>
        obtain ⟨_, -, ⟨⟩⟩ := bind_eq_ok_iff.1 read
        exact near
      · obtain ⟨⟨last, behind⟩, lastRead, read⟩ := bind_eq_ok_iff.1 read
        obtain ⟨_, -, read⟩ := bind_eq_ok_iff.1 read
        obtain ⟨_, isUpper, read⟩ := bind_eq_ok_iff.1 read
        split at read
        · cases read
          have skips := (cuts_skip [] flags left).suffix
          have item := (cuts_readBracketItem_of_bound [] lastRead isUpper).suffix
          exact Nat.le_of_lt (Nat.lt_of_le_of_lt (item.trans skips).length_le near)
        · cases read
  · obtain ⟨_, -, ⟨⟩⟩ := bind_eq_ok_iff.1 read
    rw [found]
    exact near

theorem BareDash.taken_of_more {state state' : BracketState} (bare : BareDash after flags pattern)
    (read : bracketStep flags state pattern = .ok (.more state' rest)) :
    rest.length ≤ after.length := by
  have dashed := bare
  obtain ⟨c, behind, left, rfl, found, -, near⟩ := bare
  unfold bracketStep at read
  rw [skip_dash] at read
  split at read
  case h_5 =>
    next doubled =>
      obtain ⟨-, rfl⟩ := List.cons.inj doubled
      cases read
      obtain ⟨-, rfl⟩ := List.cons.inj ((skip_dash ..).symm.trans found)
      exact Nat.le_of_lt near
  case h_7 =>
    obtain ⟨_, rangeRead, ⟨⟩⟩ := bind_eq_ok_iff.1 read
    exact dashed.taken_of_range rangeRead
  all_goals
    next other => cases other

theorem BareDash.taken_of_rest {depth deepest : Nat} {state : BracketState} {set : CharSet}
    (bare : BareDash after flags pattern)
    (read : readBracketRest flags depth state pattern = .ok (set, deepest, rest)) :
    rest.length ≤ after.length := by
  rw [readBracketRest] at read
  obtain ⟨result, stepped, read⟩ := bind_eq_ok_iff.1 read
  cases result with
  | closed members behind =>
      cases read
      obtain ⟨_, behind, _, rfl, -⟩ := bare
      cases (skip_dash ..).symm.trans (cuts_bracketStep_closed [] stepped).1
  | more state' behind =>
      dsimp only at read
      split at read
      · have closes := readBracketRest_closes read
        exact Nat.le_of_succ_le (Nat.le_trans closes.length_le (bare.taken_of_more stepped))
      · cases read

/-- The rest of a class is read of the front alone, or the closing parenthesis is a part of it. -/
theorem cuts_readBracketRest (after : List Char) {depth deepest : Nat} {state : BracketState}
    {set : CharSet} (read : readBracketRest flags depth state pattern = .ok (set, deepest, rest)) :
    Cuts after 0
      (fun front left => readBracketRest flags depth state front = .ok (set, deepest, left))
      pattern rest := by
  induction length : pattern.length using Nat.strongRecOn generalizing pattern depth state with
  | ind size ih =>
      have closes := readBracketRest_closes read
      rw [readBracketRest] at read
      obtain ⟨result, stepped, read⟩ := bind_eq_ok_iff.1 read
      cases result with
      | closed members behind =>
          cases read
          refine (cuts_bracketStep_closed after stepped).2.mono fun front left again => ?_
          rw [readBracketRest]
          exact bind_eq_ok_iff.2 ⟨_, again, rfl⟩
      | more state' behind =>
          dsimp only at read
          split at read
          · next shorter =>
              rcases cuts_bracketStep_more after stepped with cuts | bare
              · have first := Cuts.here.trans (cuts.trans Cuts.here)
                have later := ih _ (length ▸ shorter) read rfl
                refine (first.closed (readBracketRest_closes read) later).mono ?_
                rintro front left ⟨_, ⟨_, ⟨rfl, patternEq⟩, middle, again, rfl, behindEq⟩, further⟩
                have shorterToo : middle.length < front.length := by
                  rw [patternEq, behindEq, List.length_append, List.length_append] at shorter
                  exact Nat.lt_of_add_lt_add_right shorter
                rw [readBracketRest]
                refine bind_eq_ok_iff.2 ⟨_, again, ?_⟩
                dsimp only
                rw [if_pos shorterToo, further]
              · have taken := bare.taken_of_rest read
                exact ⟨(List.suffix_cons _ _).trans closes, fun _ _ => .inl taken⟩
          · cases read

theorem cuts_readBracket (after : List Char) {depth : Nat} {set : CharSet}
    (read : readBracket flags pattern = .ok (set, depth, rest)) :
    Cuts after 0 (fun front left => readBracket flags front = .ok (set, depth, left))
      pattern rest := by
  unfold readBracket at read
  obtain ⟨⟨negated, literals, behind⟩, openingRead, read⟩ := bind_eq_ok_iff.1 read
  have later := cuts_readBracketRest after read
  have closes := readBracketRest_closes read
  refine ((cuts_readBracketOpening openingRead).closed closes later).mono ?_
  rintro front left ⟨middle, again, further⟩
  exact bind_eq_ok_iff.2 ⟨_, again, further⟩

end Ranges

end Regex
end CommandShell
