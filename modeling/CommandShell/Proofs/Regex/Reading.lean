import CommandShell.Error
import CommandShell.Regex.Reader

/-!
# Reading a pattern that is cut short

A pattern may be cut in front of a closing parenthesis.  What is read of the whole pattern without
taking that parenthesis is read of its front just the same, since a parenthesis ends whatever the
end of a pattern ends.  Only where a piece of the pattern takes the parenthesis as a part of it can
the two differ.
-/

namespace CommandShell
namespace Regex

section Fronts

variable {pattern front behind : List Char}

/-- What a pattern does not begin with, its front does not begin with either. -/
theorem absent_char {c : Char} (absent : ∀ rest, pattern = c :: rest → False)
    (split : pattern = front ++ behind) : ∀ rest, front = c :: rest → False := by
  rintro rest rfl
  exact absent _ split

theorem absent_pair {first second : Char}
    (absent : ∀ rest, pattern = first :: second :: rest → False)
    (split : pattern = front ++ behind) : ∀ rest, front = first :: second :: rest → False := by
  rintro rest rfl
  exact absent _ split

end Fronts

/-- Reading takes the characters of a pattern in front of `rest`.  Where the pattern is cut in front
of a closing parenthesis with `after` behind it, reading has taken the parenthesis or, with some
`slack`, has come close to it, or else it leaves of the front what `reads` says. -/
structure Cuts (after : List Char) (slack : Nat) (reads : List Char → List Char → Prop)
    (pattern rest : List Char) : Prop where
  suffix : rest <:+ pattern
  cut : ∀ front, pattern = front ++ ')' :: after → rest.length ≤ after.length + slack ∨
    ∃ left, rest = left ++ ')' :: after ∧ reads front left

namespace Cuts

variable {after pattern rest : List Char} {slack : Nat}
variable {reads first second : List Char → List Char → Prop}

theorem mono (cuts : Cuts after slack first pattern rest)
    (weakens : ∀ front left, first front left → second front left) :
    Cuts after slack second pattern rest where
  suffix := cuts.suffix
  cut front split :=
    (cuts.cut front split).imp_right fun ⟨left, restEq, reads⟩ => ⟨left, restEq, weakens _ _ reads⟩

theorem loosen (cuts : Cuts after 0 reads pattern rest) : Cuts after 1 reads pattern rest where
  suffix := cuts.suffix
  cut front split := (cuts.cut front split).imp_left Nat.le_succ_of_le

/-- Reading goes on with what is left. -/
theorem trans {last : List Char} (cuts : Cuts after slack first pattern rest)
    (later : Cuts after slack second rest last) :
    Cuts after slack (fun front left => ∃ middle, first front middle ∧ second middle left)
      pattern last where
  suffix := later.suffix.trans cuts.suffix
  cut front split := by
    rcases cuts.cut front split with taken | ⟨middle, restEq, before⟩
    · exact .inl (Nat.le_trans later.suffix.length_le taken)
    · rcases later.cut middle restEq with taken | ⟨left, lastEq, behind⟩
      · exact .inl taken
      · exact .inr ⟨left, lastEq, middle, before, behind⟩

/-- What is left when reading has come close to the cut. -/
theorem suffix_cut (cuts : Cuts after slack reads pattern rest) (front : List Char)
    (split : pattern = front ++ ')' :: after) (near : rest.length ≤ after.length + 1) :
    rest <:+ ')' :: after :=
  List.suffix_of_suffix_length_le (split ▸ cuts.suffix) (List.suffix_append _ _) near

/-- What is left when the closing parenthesis has been taken. -/
theorem suffix_taken (cuts : Cuts after slack reads pattern rest) (front : List Char)
    (split : pattern = front ++ ')' :: after) (taken : rest.length ≤ after.length) :
    rest <:+ after :=
  List.suffix_of_suffix_length_le (cuts.suffix_cut front split (Nat.le_succ_of_le taken))
    (List.suffix_cons _ _) taken

theorem nil : Cuts after slack reads [] [] where
  suffix := List.suffix_refl []
  cut _ split := by simp at split

/-- Nothing is taken, but it is known what is next. -/
theorem here : Cuts after slack (fun front left => front = left ∧ pattern = left ++ ')' :: after)
    pattern pattern where
  suffix := List.suffix_refl pattern
  cut front split := .inr ⟨front, split, rfl, split⟩

/-- With some slack, there is something next in the front too. -/
theorem next : Cuts after 1
    (fun front left => front = left ∧ left ≠ [] ∧ pattern = left ++ ')' :: after)
    pattern pattern where
  suffix := List.suffix_refl pattern
  cut front split := by
    cases front with
    | nil => exact .inl (split ▸ Nat.le_refl _)
    | cons c front => exact .inr ⟨_, split, rfl, List.cons_ne_nil c front, split⟩

theorem char (c : Char) :
    Cuts after slack (fun front left => front = c :: left) (c :: rest) rest where
  suffix := List.suffix_cons c rest
  cut front split := by
    cases front with
    | nil =>
        obtain ⟨-, rfl⟩ := List.cons.inj split
        exact .inl (Nat.le_add_right ..)
    | cons head front =>
        obtain ⟨rfl, rfl⟩ := List.cons.inj split
        exact .inr ⟨front, rfl, rfl⟩

/-- Reading takes a character and goes on behind it. -/
theorem cons {c : Char} (later : Cuts after slack first pattern rest)
    (goesOn : ∀ front left, first front left → second (c :: front) left) :
    Cuts after slack second (c :: pattern) rest := by
  refine ((char c).trans later).mono ?_
  rintro _ left ⟨front, rfl, again⟩
  exact goesOn front left again

/-- Reading takes a character and ends behind it. -/
theorem last {c : Char} (ends : ∀ left, second (c :: left) left) :
    Cuts after slack second (c :: rest) rest := by
  refine (char c).mono ?_
  rintro _ left rfl
  exact ends left

end Cuts

section Blanks

variable {after pattern rest : List Char} {slack : Nat} {flags : Flags}

/-- What stops at a character that is left stops at the end of the pattern too. -/
theorem Cuts.stop {reads : List Char → List Char → Prop} {c : Char} (atEnd : reads [] [])
    (atChar : ∀ left, reads (c :: left) (c :: left)) :
    Cuts after slack reads (c :: rest) (c :: rest) := by
  refine here.mono ?_
  rintro front _ ⟨rfl, split⟩
  cases front with
  | nil => exact atEnd
  | cons head front =>
      obtain ⟨rfl, -⟩ := List.cons.inj split
      exact atChar front

@[simp]
theorem skip_nil (flags : Flags) : flags.skip [] = [] := by
  unfold Flags.skip
  split <;> rfl

theorem skipVerbose_append {inComment : Bool} {front behind left : List Char} {c : Char}
    (stops : skipVerbose inComment front = c :: left) :
    skipVerbose inComment (front ++ behind) = c :: (left ++ behind) := by
  induction front generalizing inComment with
  | nil => cases stops
  | cons head front ih =>
      rw [skipVerbose] at stops
      rw [List.cons_append, skipVerbose]
      split at stops
      · next code => rw [if_pos code, ih stops]
      · next code =>
          rw [if_neg code]
          split at stops
          · next blank => rw [if_pos blank, ih stops]
          · next nonblank =>
              rw [if_neg nonblank]
              split at stops
              · next comment => rw [if_pos comment, ih stops]
              · next counts => rw [if_neg counts, ← List.cons_append, stops, List.cons_append]

theorem skip_brace (flags : Flags) (pattern : List Char) :
    flags.skip ('\x7b' :: pattern) = '\x7b' :: pattern := by
  unfold Flags.skip
  split <;> rfl

/-- What is behind a character that counts plays no part in skipping. -/
theorem skip_append {front behind left : List Char} {c : Char}
    (skipped : flags.skip front = c :: left) :
    flags.skip (front ++ behind) = c :: (left ++ behind) := by
  unfold Flags.skip at skipped ⊢
  split at skipped
  · next isVerbose => rw [if_pos isVerbose, skipVerbose_append skipped]
  · next notVerbose => rw [if_neg notVerbose, skipped, List.cons_append]

theorem cuts_skipVerbose (inComment : Bool) (pattern : List Char) :
    Cuts after 0 (fun front left => skipVerbose inComment front = left) pattern
      (skipVerbose inComment pattern) := by
  induction pattern generalizing inComment with
  | nil => exact .nil
  | cons c pattern ih =>
      rw [skipVerbose]
      split
      · next skipped =>
          refine Cuts.cons (ih _) fun middle left again => ?_
          rw [skipVerbose, if_pos skipped, again]
      · next code =>
          split
          · next skipped =>
              refine Cuts.cons (ih _) fun middle left again => ?_
              rw [skipVerbose, if_neg code, if_pos skipped, again]
          · next nonblank =>
              split
              · next skipped =>
                  refine Cuts.cons (ih _) fun middle left again => ?_
                  rw [skipVerbose, if_neg code, if_neg nonblank, if_pos skipped, again]
              · next counts =>
                  refine .stop rfl fun left => ?_
                  rw [skipVerbose, if_neg code, if_neg nonblank, if_neg counts]

theorem cuts_skip (after : List Char) (flags : Flags) (pattern : List Char) :
    Cuts after 0 (fun front left => flags.skip front = left) pattern (flags.skip pattern) := by
  unfold Flags.skip
  split
  · exact cuts_skipVerbose false pattern
  · exact Cuts.here.mono fun front left => And.left

theorem cuts_dropWhile (after : List Char) (skips : Char → Bool) (pattern : List Char) :
    Cuts after 0
      (fun front left => front.takeWhile skips = pattern.takeWhile skips ∧
        front.dropWhile skips = left)
      pattern (pattern.dropWhile skips) := by
  induction pattern with
  | nil => exact .nil
  | cons c pattern ih =>
      rw [List.dropWhile_cons, List.takeWhile_cons]
      split
      · next skipped =>
          refine ((Cuts.char c).trans ih).mono ?_
          rintro _ left ⟨middle, rfl, sameTaken, again⟩
          rw [List.takeWhile_cons_of_pos skipped, List.dropWhile_cons_of_pos skipped, again,
            sameTaken]
          exact ⟨rfl, rfl⟩
      · next stops =>
          exact .stop ⟨rfl, rfl⟩ fun left =>
            ⟨List.takeWhile_cons_of_neg stops, List.dropWhile_cons_of_neg stops⟩

theorem cuts_digitsFrom (flags : Flags) (pattern : List Char) :
    Cuts after 0
      (fun front left => readDecimal.digitsFrom flags front =
        ((readDecimal.digitsFrom flags pattern).1, left))
      pattern (readDecimal.digitsFrom flags pattern).2 := by
  induction pattern with
  | nil => exact .nil
  | cons c pattern ih =>
      rw [readDecimal.digitsFrom]
      split
      · next isDigit =>
          refine Cuts.cons ih fun middle left again => ?_
          rw [readDecimal.digitsFrom, if_pos isDigit, again]
      · next noDigit =>
          split
          · next skipped =>
              refine Cuts.cons ih fun middle left again => ?_
              rw [readDecimal.digitsFrom, if_neg noDigit, if_pos skipped, again]
          · next stops =>
              refine .stop rfl fun left => ?_
              rw [readDecimal.digitsFrom, if_neg noDigit, if_neg stops]

theorem cuts_readDecimal {value : Nat} (read : readDecimal flags pattern = .ok (value, rest)) :
    Cuts after 0 (fun front left => readDecimal flags front = .ok (value, left)) pattern rest := by
  unfold readDecimal at read
  dsimp only at read
  split at read
  · cases read
  · next digits =>
      split at read
      · cases read
      · next small =>
          cases read
          refine ((cuts_dropWhile after isBlank pattern).trans
            ((cuts_digitsFrom flags _).trans (cuts_dropWhile after isBlank _))).mono ?_
          rintro front left ⟨start, ⟨-, started⟩, ended, counted, -, finished⟩
          unfold readDecimal
          simp only [started, counted, finished, if_neg digits, if_neg small]

end Blanks

section Escapes

variable {after pattern rest : List Char} {slack : Nat} {flags : Flags}

theorem cuts_readHexDigits {value code : Nat} (count : Nat)
    (read : readHexDigits flags value count pattern = .ok (code, rest)) :
    Cuts after 0 (fun front left => readHexDigits flags value count front = .ok (code, left))
      pattern rest := by
  induction count generalizing pattern value with
  | zero =>
      cases read
      exact Cuts.here.mono fun front left => fun ⟨same, _⟩ => by rw [same, readHexDigits]
  | succ count ih =>
      have skips := cuts_skip after flags pattern
      rw [readHexDigits] at read
      split at read
      · cases read
      · next c behind next =>
          rw [next] at skips
          split at read
          · cases read
          · next digit isDigit =>
              refine (skips.trans ((Cuts.char c).trans (ih read))).mono ?_
              rintro front left ⟨_, skipped, middle, rfl, again⟩
              rw [readHexDigits, skipped]
              simp only [isDigit, again]

theorem cuts_readHexBrace {digits : List Nat} {code : Nat}
    (read : readHexBrace flags digits pattern = .ok (code, rest)) :
    Cuts after 0 (fun front left => readHexBrace flags digits front = .ok (code, left))
      pattern rest := by
  induction pattern generalizing digits with
  | nil => cases read
  | cons c pattern ih =>
      rw [readHexBrace] at read
      split at read
      · next closing =>
          split at read
          · cases read
          · next some =>
              cases read
              refine Cuts.last fun left => ?_
              rw [readHexBrace, if_pos closing, if_neg some]
      · next inside =>
          split at read
          · next skipped =>
              refine Cuts.cons (ih read) fun middle left again => ?_
              rw [readHexBrace, if_neg inside, if_pos skipped, again]
          · next counts =>
              split at read
              · cases read
              · next digit isDigit =>
                  refine Cuts.cons (ih read) fun middle left again => ?_
                  rw [readHexBrace, if_neg inside, if_neg counts, isDigit]
                  exact again

theorem cuts_readHex {digits : Nat} {escape : Escape}
    (read : readHex flags (digits + 1) pattern = .ok (escape, rest)) :
    Cuts after 0 (fun front left => readHex flags (digits + 1) front = .ok (escape, left))
      pattern rest := by
  have skips := cuts_skip after flags pattern
  unfold readHex at read
  split at read
  · cases read
  · next behind next =>
      rw [next] at skips
      obtain ⟨⟨code, behind⟩, digitsRead, read⟩ := bind_eq_ok_iff.1 read
      obtain ⟨c, valid, read⟩ := bind_eq_ok_iff.1 read
      cases read
      refine (skips.trans ((Cuts.char _).trans (cuts_readHexBrace digitsRead))).mono ?_
      rintro front left ⟨_, skipped, middle, rfl, again⟩
      rw [readHex, skipped]
      exact bind_eq_ok_iff.2 ⟨_, again, bind_eq_ok_iff.2 ⟨c, valid, rfl⟩⟩
  · next noBrace =>
      obtain ⟨⟨code, behind⟩, digitsRead, read⟩ := bind_eq_ok_iff.1 read
      obtain ⟨c, valid, read⟩ := bind_eq_ok_iff.1 read
      cases read
      refine (skips.trans (Cuts.here.trans (cuts_readHexDigits _ digitsRead))).mono ?_
      rintro front left ⟨middle, skipped, _, ⟨rfl, split⟩, again⟩
      rw [readHex, skipped]
      split
      · rw [readHexDigits, skip_nil] at again
        cases again
      · next inside =>
          rw [split] at noBrace
          exact absurd rfl (noBrace _)
      · exact bind_eq_ok_iff.2 ⟨_, again, bind_eq_ok_iff.2 ⟨c, valid, rfl⟩⟩

theorem cuts_readBoundaryName {before : List Char} {name : String}
    (read : readBoundaryName flags before pattern = .ok (name, rest)) :
    Cuts after 0 (fun front left => readBoundaryName flags before front = .ok (name, left))
      pattern rest := by
  induction pattern generalizing before with
  | nil => cases read
  | cons c pattern ih =>
      rw [readBoundaryName] at read
      split at read
      · next inside =>
          refine Cuts.cons (ih read) fun middle left again => ?_
          rw [readBoundaryName, if_pos inside, again]
      · next outside =>
          split at read
          · next closing =>
              cases read
              refine Cuts.last fun left => ?_
              rw [readBoundaryName, if_neg outside, if_pos closing]
          · next notClosed =>
              split at read
              · next skipped =>
                  refine Cuts.cons (ih read) fun middle left again => ?_
                  rw [readBoundaryName, if_neg outside, if_neg notClosed, if_pos skipped, again]
              · cases read

/-- What is behind a brace that opens nothing when the pattern is cut: only what is skipped. -/
def BareBrace (after : List Char) (flags : Flags) (rest : List Char) : Prop :=
  ∃ blanks, rest = '\x7b' :: (blanks ++ ')' :: after) ∧ flags.skip blanks = []

/-- A brace behind a word boundary may open the name of a special one.  Whether it does depends on
what comes next, and that is missing where the pattern is cut right behind the brace. -/
theorem cuts_readBoundary {boundary : Look}
    (read : readBoundary flags pattern = .ok (boundary, rest)) :
    Cuts after 0 (fun front left => readBoundary flags front = .ok (boundary, left)) pattern rest ∨
      BareBrace after flags rest := by
  unfold readBoundary at read
  dsimp only at read
  split at read
  · next behind =>
      have skips := cuts_skip after flags behind
      split at read
      · cases read
      · next c inside next =>
          split at read
          · next named =>
              left
              obtain ⟨⟨name, behind⟩, nameRead, read⟩ := bind_eq_ok_iff.1 read
              rw [next] at skips
              obtain rfl : behind = rest := by split at read <;> cases read <;> rfl
              refine ((Cuts.char '\x7b').trans
                (skips.trans (Cuts.here.trans (cuts_readBoundaryName nameRead)))).mono ?_
              rintro _ left ⟨_, rfl, middle, skipped, _, ⟨rfl, split⟩, again⟩
              cases middle with
              | nil => cases again
              | cons head middle =>
                  obtain ⟨rfl, -⟩ := List.cons.inj split
                  simp only [readBoundary, skipped]
                  rw [if_pos named]
                  refine bind_eq_ok_iff.2 ⟨_, again, ?_⟩
                  dsimp only at read ⊢
                  split at read <;> cases read <;> rfl
          · next unnamed =>
              cases read
              by_cases bare : BareBrace after flags ('\x7b' :: behind)
              · exact .inr bare
              · left
                refine Cuts.here.mono ?_
                rintro front _ ⟨rfl, split⟩
                cases front with
                | nil => cases split
                | cons head front =>
                    obtain ⟨rfl, rfl⟩ := List.cons.inj split
                    cases skipped : flags.skip front with
                    | nil => exact absurd ⟨front, rfl, skipped⟩ bare
                    | cons head left =>
                        obtain ⟨rfl, -⟩ := List.cons.inj (next.symm.trans (skip_append skipped))
                        simp only [readBoundary, skipped]
                        rw [if_neg unnamed]
  · next noBrace =>
      left
      cases read
      cases pattern with
      | nil => exact .nil
      | cons c pattern =>
          refine .stop rfl fun left => ?_
          unfold readBoundary
          split
          · next behind same =>
              obtain ⟨rfl, -⟩ := List.cons.inj same
              exact absurd rfl (noBrace pattern)
          · rfl

theorem cuts_readPropertyName {name : String}
    (read : readPropertyName flags pattern = .ok (name, rest)) :
    Cuts after 0 (fun front left => readPropertyName flags front = .ok (name, left))
      pattern rest := by
  have skips := cuts_skip after flags pattern
  unfold readPropertyName at read
  split at read
  · cases read
  · next behind next =>
      have closes := cuts_dropWhile after (· != '\x7d') behind
      rw [next] at skips
      dsimp only at read
      split at read
      · cases read
      · next closing behind' found =>
          cases read
          rw [found] at closes
          refine (skips.trans ((Cuts.char _).trans (closes.trans (Cuts.char _)))).mono ?_
          rintro front left ⟨_, skipped, middle, rfl, _, ⟨sameName, again⟩, rfl⟩
          simp only [readPropertyName, skipped, again, sameName]
  · cases read
  · next c behind noBrace noBackslash next =>
      rw [next] at skips
      cases read
      refine (skips.trans (Cuts.char c)).mono ?_
      rintro front left ⟨_, skipped, rfl⟩
      simp only [readPropertyName, skipped]

/-- Only a special word boundary may be read otherwise where the pattern is cut. -/
theorem cuts_readEscape (after : List Char) {escape : Escape}
    (read : readEscape flags pattern = .ok (escape, rest)) :
    Cuts after 0 (fun front left => readEscape flags front = .ok (escape, left)) pattern rest ∨
      BareBrace after flags rest ∧ ∃ condition, escape = .look condition := by
  cases pattern with
  | nil => cases read
  | cons c pattern =>
      unfold readEscape at read
      dsimp only at read
      split at read
      case h_1 | h_2 | h_3 =>
        refine .inl (Cuts.cons (cuts_readHex read) fun middle left again => ?_)
        exact again
      case h_4 | h_5 | h_6 | h_7 | h_8 | h_9 =>
        obtain ⟨members, isSet, read⟩ := bind_eq_ok_iff.1 read
        cases read
        refine .inl (Cuts.last fun left => ?_)
        exact bind_eq_ok_iff.2 ⟨members, isSet, rfl⟩
      case h_10 | h_11 =>
        obtain ⟨⟨name, behind⟩, nameRead, read⟩ := bind_eq_ok_iff.1 read
        dsimp only at read
        split at read
        · cases read
        · next isUnicode =>
            split at read
            · cases read
            · next members found =>
                cases read
                refine .inl (Cuts.cons (cuts_readPropertyName nameRead) fun middle left again => ?_)
                refine bind_eq_ok_iff.2 ⟨_, again, ?_⟩
                dsimp only
                rw [if_neg isUnicode, found]
                rfl
      case h_20 =>
        obtain ⟨⟨boundary, behind⟩, boundaryRead, read⟩ := bind_eq_ok_iff.1 read
        cases read
        rcases cuts_readBoundary boundaryRead with cuts | bare
        · refine .inl (Cuts.cons cuts fun middle left again => ?_)
          exact bind_eq_ok_iff.2 ⟨_, again, rfl⟩
        · exact .inr ⟨bare, boundary, rfl⟩
      case h_24 =>
        split at read
        · cases read
        · next noDigit =>
            split at read
            · next literal =>
                cases read
                refine .inl (Cuts.last fun left => ?_)
                unfold readEscape
                simp only [if_neg noDigit, if_pos literal]
            · cases read
      all_goals
        cases read
        refine .inl (Cuts.last fun left => ?_)
        rfl

end Escapes

end Regex
end CommandShell
