import CommandShell.Proofs.Regex.Brackets

/-!
# Reading the next piece of a pattern that is cut short

A piece that ends in front of the closing parenthesis is read of the front alone.  There is one that
looks further ahead: a brace behind a word boundary.
-/

namespace CommandShell
namespace Regex

variable {after pattern rest : List Char} {flags : Flags}

section Groups

theorem cuts_readFlags {seen : List Flag} {negating dangling noFlags : Bool} {set : Flags}
    {stop : Char}
    (read : readFlags flags seen negating dangling pattern = .ok (set, noFlags, stop, rest)) :
    Cuts after 0
      (fun front left =>
        readFlags flags seen negating dangling front = .ok (set, noFlags, stop, left))
      pattern rest := by
  induction pattern generalizing flags seen negating dangling with
  | nil => cases read
  | cons c pattern ih =>
      rw [readFlags] at read
      split at read
      · next stops =>
          split at read
          · cases read
          · next complete =>
              cases read
              refine Cuts.last fun left => ?_
              rw [readFlags, if_pos stops, if_neg complete]
      · next goesOn =>
          split at read
          · next dash =>
              split at read
              · cases read
              · next first =>
                  refine Cuts.cons (ih read) fun middle left again => ?_
                  rw [readFlags, if_neg goesOn, if_pos dash, if_neg first, again]
          · next letter =>
              split at read
              · cases read
              · next flag isFlag =>
                  split at read
                  · cases read
                  · next fresh =>
                      refine Cuts.cons (ih read) fun middle left again => ?_
                      rw [readFlags, if_neg goesOn, if_neg letter, isFlag]
                      dsimp only
                      rw [if_neg fresh, again]

theorem cuts_readGroupName {before : List Char} {name : String}
    (read : readGroupName before pattern = .ok (name, rest)) :
    Cuts after 0 (fun front left => readGroupName before front = .ok (name, left))
      pattern rest := by
  induction pattern generalizing before with
  | nil => cases read
  | cons c pattern ih =>
      rw [readGroupName] at read
      split at read
      · next closing =>
          split at read
          · cases read
          · next some =>
              cases read
              refine Cuts.last fun left => ?_
              rw [readGroupName, if_pos closing, if_neg some]
      · next inside =>
          split at read
          · next nameChar =>
              refine Cuts.cons (ih read) fun middle left again => ?_
              rw [readGroupName, if_neg inside, if_pos nameChar, again]
          · cases read

variable {state next : ReaderState}

theorem cuts_openNamed (read : state.openNamed pattern = .ok (next, rest)) :
    Cuts after 0 (fun front left => state.openNamed front = .ok (next, left)) pattern rest := by
  obtain ⟨⟨name, behind⟩, nameRead, read⟩ := bind_eq_ok_iff.1 read
  dsimp only at read
  split at read
  · cases read
  · next fresh =>
      cases read
      refine (cuts_readGroupName nameRead).mono fun front left again => ?_
      refine bind_eq_ok_iff.2 ⟨_, again, ?_⟩
      dsimp only
      rw [if_neg fresh]
      rfl

theorem cuts_readGroup (read : state.readGroup pattern = .ok (next, rest)) :
    Cuts after 0 (fun front left => state.readGroup front = .ok (next, left)) pattern rest := by
  have skips := cuts_skip after state.flags pattern
  unfold ReaderState.readGroup at read
  split at read
  case h_1 | h_2 | h_3 | h_4 | h_7 => cases read
  · next inner found =>
      rw [found] at skips
      refine (skips.trans ((Cuts.char _).trans ((Cuts.char _).trans
        ((Cuts.char _).trans (cuts_openNamed read))))).mono ?_
      rintro front left ⟨_, skipped, _, rfl, _, rfl, middle, rfl, again⟩
      simp only [ReaderState.readGroup, skipped, again]
  · next inner noEquals noMark found =>
      rw [found] at skips
      refine (skips.trans ((Cuts.char _).trans
        ((Cuts.char _).trans (Cuts.here.trans (cuts_openNamed read))))).mono ?_
      rintro front left ⟨_, skipped, _, rfl, middle, rfl, _, ⟨rfl, split⟩, again⟩
      have noEquals := absent_char noEquals split
      have noMark := absent_char noMark split
      simp only [ReaderState.readGroup, skipped, again]
  · next inner noEquals noMark noBefore noNotBefore noName noAngle some found =>
      rw [found] at skips
      obtain ⟨⟨flags, noFlags, stop, behind⟩, flagsRead, read⟩ := bind_eq_ok_iff.1 read
      dsimp only at read
      obtain rfl : behind = rest := by
        split at read
        · cases read
          rfl
        · split at read <;> cases read
          rfl
      refine (skips.trans ((Cuts.char _).trans
        (Cuts.here.trans (cuts_readFlags flagsRead)))).mono ?_
      rintro front left ⟨_, skipped, middle, rfl, _, ⟨rfl, split⟩, again⟩
      have noEquals := absent_char noEquals split
      have noMark := absent_char noMark split
      have noBefore := absent_pair noBefore split
      have noNotBefore := absent_pair noNotBefore split
      have noName := absent_pair noName split
      have noAngle := absent_char noAngle split
      have some : middle = [] → False := by
        rintro rfl
        cases again
      simp only [ReaderState.readGroup, skipped]
      refine bind_eq_ok_iff.2 ⟨_, again, ?_⟩
      dsimp only
      split at read
      · next opens =>
          cases read
          rw [if_pos opens]
          rfl
      · next sets =>
          split at read
          · cases read
          · next some =>
              cases read
              rw [if_neg sets, if_neg some]
              rfl
  · next noMark =>
      cases read
      refine (skips.trans Cuts.here).mono ?_
      rintro front _ ⟨left, skipped, rfl, split⟩
      have noMark := absent_char noMark split
      unfold ReaderState.readGroup
      rw [skipped]
      split
      case h_9 => rfl
      all_goals exact (noMark _ rfl).elim

end Groups

section Repetitions

theorem cuts_skipLazy (pattern : List Char) :
    Cuts after 0 (fun front left => skipLazy front = left) pattern (skipLazy pattern) := by
  unfold skipLazy
  split
  · refine Cuts.last fun left => ?_
    rfl
  · next eager =>
      refine Cuts.here.mono ?_
      rintro front _ ⟨rfl, split⟩
      have eager := absent_char eager split
      simp only

theorem nonempty_eq_ok_iff {result : List Char} :
    readCounts.nonempty pattern = .ok result ↔ pattern = result ∧ pattern ≠ [] := by
  cases pattern with
  | nil => simp [readCounts.nonempty]
  | cons c pattern => simp [readCounts.nonempty]

theorem nonempty_of_readDecimal {result : Nat × List Char}
    (read : readDecimal flags pattern = .ok result) :
    readCounts.nonempty pattern = .ok pattern := by
  refine nonempty_eq_ok_iff.2 ⟨rfl, ?_⟩
  rintro rfl
  cases read

/-- The brace that ends the counts, and the sign behind it. -/
theorem cuts_closeCounts (flags : Flags) (pattern : List Char) :
    Cuts after 0
      (fun front left => ∃ inner, front = '\x7d' :: inner ∧ skipLazy (flags.skip inner) = left)
      ('\x7d' :: pattern) (skipLazy (flags.skip pattern)) := by
  refine ((Cuts.char _).trans ((cuts_skip after flags _).trans (cuts_skipLazy _))).mono ?_
  rintro _ left ⟨inner, rfl, _, rfl, eager⟩
  exact ⟨inner, rfl, eager⟩

theorem cuts_readCounts {least : Nat} {most : Option Nat}
    (read : readCounts flags pattern = .ok (least, most, rest)) :
    Cuts after 0 (fun front left => readCounts flags front = .ok (least, most, left))
      pattern rest := by
  unfold readCounts at read
  obtain ⟨inner, nonempty, read⟩ := bind_eq_ok_iff.1 read
  obtain ⟨rfl, -⟩ := nonempty_eq_ok_iff.1 nonempty
  obtain ⟨⟨lower, behind⟩, lowerRead, goesOn⟩ := bind_eq_ok_iff.1 read
  have begins := (cuts_skip after flags pattern).trans (cuts_readDecimal lowerRead)
  dsimp only at goesOn
  split at goesOn
  · next closing =>
      cases goesOn
      refine (begins.trans (cuts_closeCounts flags _)).mono ?_
      rintro front left ⟨_, ⟨_, rfl, lowerAgain⟩, inner, rfl, closes⟩
      refine bind_eq_ok_iff.2 ⟨_, nonempty_of_readDecimal lowerAgain, ?_⟩
      refine bind_eq_ok_iff.2 ⟨_, lowerAgain, ?_⟩
      rw [← closes]
      rfl
  · next second =>
      obtain ⟨middle, nonempty, goesOn⟩ := bind_eq_ok_iff.1 goesOn
      obtain ⟨rfl, -⟩ := nonempty_eq_ok_iff.1 nonempty
      have comma := begins.trans ((Cuts.char _).trans (cuts_skip after flags second))
      split at goesOn
      · next closing found =>
          cases goesOn
          rw [found] at comma
          refine (comma.trans (cuts_closeCounts flags _)).mono ?_
          rintro front left ⟨_, ⟨_, ⟨_, rfl, lowerAgain⟩, second, rfl, skipped⟩, inner, rfl, closes⟩
          refine bind_eq_ok_iff.2 ⟨_, nonempty_of_readDecimal lowerAgain, ?_⟩
          refine bind_eq_ok_iff.2 ⟨_, lowerAgain, ?_⟩
          refine bind_eq_ok_iff.2 ⟨_, nonempty_eq_ok_iff.2 ⟨skipped, ?_⟩, ?_⟩
          · simp [skipped]
          · rw [← closes]
            rfl
      · next unclosed =>
          obtain ⟨⟨upper, behind⟩, upperRead, goesOn⟩ := bind_eq_ok_iff.1 goesOn
          dsimp only at goesOn
          split at goesOn
          · next closing =>
              split at goesOn
              · cases goesOn
              · next ordered =>
                  cases goesOn
                  refine (comma.trans (Cuts.here.trans ((cuts_readDecimal upperRead).trans
                    (cuts_closeCounts flags _)))).mono ?_
                  rintro front left ⟨_, ⟨_, ⟨_, rfl, lowerAgain⟩, second, rfl, rfl⟩, _,
                    ⟨rfl, split⟩, _, upperAgain, inner, rfl, closes⟩
                  have unclosed := absent_char unclosed split
                  refine bind_eq_ok_iff.2 ⟨_, nonempty_of_readDecimal lowerAgain, ?_⟩
                  refine bind_eq_ok_iff.2 ⟨_, lowerAgain, ?_⟩
                  refine bind_eq_ok_iff.2 ⟨_, nonempty_of_readDecimal upperAgain, ?_⟩
                  simp only
                  refine bind_eq_ok_iff.2 ⟨_, upperAgain, ?_⟩
                  dsimp only
                  simp only [if_neg ordered, closes]
                  rfl
          · cases goesOn
  · cases goesOn

end Repetitions

section Steps

variable {state next : ReaderState}

/-- The next piece is read of the front alone, or the closing parenthesis is a part of it.  Only
behind a word boundary may there be a brace that looks further ahead. -/
theorem cuts_step (after : List Char) {c : Char}
    (read : state.step (c :: pattern) = .ok (next, rest)) :
    Cuts after 0 (fun front left => state.step front = .ok (next, left)) (c :: pattern) rest ∨
      next.flags = state.flags ∧ BareBrace after state.flags rest := by
  unfold ReaderState.step at read
  dsimp only at read
  split at read
  · refine .inl (Cuts.cons (cuts_readGroup read) fun middle left again => ?_)
    exact again
  · obtain ⟨outer, closes, read⟩ := bind_eq_ok_iff.1 read
    cases read
    refine .inl (Cuts.last fun left => ?_)
    exact bind_eq_ok_iff.2 ⟨_, closes, rfl⟩
  · cases read
    refine .inl (Cuts.last fun left => ?_)
    rfl
  · obtain ⟨⟨set, depth, behind⟩, bracketRead, read⟩ := bind_eq_ok_iff.1 read
    cases read
    have cuts := cuts_readBracket after bracketRead
    refine .inl (Cuts.cons cuts fun middle left again => ?_)
    exact bind_eq_ok_iff.2 ⟨_, again, rfl⟩
  case h_5 | h_6 | h_7 =>
    obtain ⟨repeated, repeats, read⟩ := bind_eq_ok_iff.1 read
    cases read
    refine .inl (Cuts.cons (cuts_skipLazy _) fun middle left again => ?_)
    refine bind_eq_ok_iff.2 ⟨_, repeats, ?_⟩
    rw [again]
    rfl
  · obtain ⟨repeated, repeats, read⟩ := bind_eq_ok_iff.1 read
    obtain ⟨⟨least, most, behind⟩, countsRead, read⟩ := bind_eq_ok_iff.1 read
    obtain ⟨counted, counts, read⟩ := bind_eq_ok_iff.1 read
    cases read
    refine .inl (Cuts.cons (cuts_readCounts countsRead) fun middle left again => ?_)
    exact bind_eq_ok_iff.2 ⟨_, repeats, bind_eq_ok_iff.2 ⟨_, again,
      bind_eq_ok_iff.2 ⟨_, counts, rfl⟩⟩⟩
  · obtain ⟨⟨escape, behind⟩, escapeRead, read⟩ := bind_eq_ok_iff.1 read
    obtain ⟨expression, escaped, read⟩ := bind_eq_ok_iff.1 read
    cases read
    rcases cuts_readEscape after escapeRead with cuts | ⟨bare, -⟩
    · refine .inl (Cuts.cons cuts fun middle left again => ?_)
      exact bind_eq_ok_iff.2 ⟨_, again, bind_eq_ok_iff.2 ⟨_, escaped, rfl⟩⟩
    · exact .inr ⟨rfl, bare⟩
  · obtain ⟨set, isSet, read⟩ := bind_eq_ok_iff.1 read
    cases read
    refine .inl (Cuts.last fun left => ?_)
    exact bind_eq_ok_iff.2 ⟨_, isSet, rfl⟩
  case h_11 | h_12 =>
    cases read
    refine .inl (Cuts.last fun left => ?_)
    rfl
  · cases read
    refine .inl (Cuts.last fun left => ?_)
    simp only [ReaderState.step]

end Steps

end Regex
end CommandShell
