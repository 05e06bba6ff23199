import CommandShell.Proofs.Line.Names
import Mathlib.Algebra.Ring.Parity

/-!
# Positions in a line

What a character means depends on what stands before it: on the length of the run of
backslashes right before it, on the number of quotes before it that are not escaped, and on
whether a word has begun.  These three are counted here in the line itself, with no scanner in
sight.  `Agrees` compares them with the state of the scanner, and `induction_on_positions`
follows the scanner from position to position with `Agrees` at hand at each of them.
-/

namespace CommandShell
namespace Line

section Counting

variable (chars : List Char) (i : Nat)

/-- The number of backslashes right before a position. -/
def backslashRun : Nat := ((chars.take i).reverse.takeWhile (· == '\\')).length

/-- Whether the backslashes before a position escape what stands there. -/
def Escaped : Prop := Odd (backslashRun chars i)

instance : Decidable (Escaped chars i) := inferInstanceAs (Decidable (Odd _))

/-- Whether a quote stands at a position that is not escaped. -/
def IsQuote : Prop := chars[i]? = some '"' ∧ ¬ Escaped chars i

instance : Decidable (IsQuote chars i) := inferInstanceAs (Decidable (_ ∧ _))

/-- The number of quotes before a position, without those that are escaped. -/
def quotesBefore : Nat := (List.range i).countP fun j => IsQuote chars j

/-- Whether a position is behind a quote that opens and not behind the one that closes it. -/
def Quoted : Prop := Odd (quotesBefore chars i)

instance : Decidable (Quoted chars i) := inferInstanceAs (Decidable (Odd _))

/-- Whether the character at a position is part of a word whatever stands before it: it is
outside quotes, and it is escaped or means nothing. -/
def IsWordChar : Prop :=
  ¬ Quoted chars i ∧ ∃ c ∈ chars[i]?, Escaped chars i ∨ isNameChar c = true

instance : Decidable (IsWordChar chars i) := inferInstanceAs (Decidable (_ ∧ _))

/-- Whether a word outside quotes has begun before a position and goes on up to it: nothing
but dashes stands behind a character that is part of a word. -/
def WordOpen : Prop :=
  ∃ j < i, IsWordChar chars j ∧ ∀ k < i, j < k → chars[k]? = some '-'

instance : Decidable (WordOpen chars i) := inferInstanceAs (Decidable (∃ j < i, _))

/-- The token that the character at a position stands for by itself, if there is one: the
character is special, and neither escaped nor in quotes nor a dash that goes on with a word. -/
def specialAt? : Option Token :=
  if Escaped chars i ∨ Quoted chars i ∨ (chars[i]? = some '-' ∧ WordOpen chars i) then none
  else chars[i]?.bind Token.special?

end Counting

section Succession

variable {chars : List Char} {i : Nat} {c : Char}

@[simp]
theorem not_escaped_zero : ¬ Escaped chars 0 := by simp [Escaped, backslashRun]

@[simp]
theorem not_quoted_zero : ¬ Quoted chars 0 := by simp [Quoted, quotesBefore]

@[simp]
theorem not_wordOpen_zero : ¬ WordOpen chars 0 := by simp [WordOpen]

theorem escaped_succ (present : chars[i]? = some c) :
    Escaped chars (i + 1) ↔ c = '\\' ∧ ¬ Escaped chars i := by
  have taken : (chars.take (i + 1)).reverse = c :: (chars.take i).reverse := by
    rw [List.take_add_one, present, List.reverse_append]
    rfl
  rw [Escaped, backslashRun, taken, List.takeWhile_cons]
  by_cases backslash : c = '\\'
  · simp [backslash, Escaped, backslashRun, Nat.odd_add_one]
  · simp [backslash]

theorem quotesBefore_succ (chars : List Char) (i : Nat) :
    quotesBefore chars (i + 1) = quotesBefore chars i + if IsQuote chars i then 1 else 0 := by
  simp [quotesBefore, List.range_succ, List.countP_append, List.countP_singleton]

theorem quoted_succ_of_isQuote (quote : IsQuote chars i) :
    Quoted chars (i + 1) ↔ ¬ Quoted chars i := by
  rw [Quoted, quotesBefore_succ, if_pos quote, Nat.odd_add_one, Quoted]

theorem quoted_succ (noQuote : ¬ IsQuote chars i) : Quoted chars (i + 1) ↔ Quoted chars i := by
  rw [Quoted, quotesBefore_succ, if_neg noQuote, Nat.add_zero, Quoted]

theorem wordOpen_succ (chars : List Char) (i : Nat) :
    WordOpen chars (i + 1) ↔ IsWordChar chars i ∨ (chars[i]? = some '-' ∧ WordOpen chars i) := by
  constructor
  · rintro ⟨j, before, wordChar, dashes⟩
    by_cases last : j = i
    · exact .inl (last ▸ wordChar)
    · have earlier : j < i := by omega
      have within : ∀ k < i, j < k → chars[k]? = some '-' := by
        intro k bound after
        exact dashes k (by omega) after
      exact .inr ⟨dashes i (by omega) earlier, j, earlier, wordChar, within⟩
  · rintro (wordChar | ⟨dash, j, before, wordChar, dashes⟩)
    · refine ⟨i, by omega, wordChar, ?_⟩
      intro k bound after
      omega
    · refine ⟨j, by omega, wordChar, ?_⟩
      intro k bound after
      by_cases last : k = i
      · exact last ▸ dash
      · exact dashes k (by omega) after

theorem specialAt?_eq_some_iff {token : Token} :
    specialAt? chars i = some token ↔
      ¬ Escaped chars i ∧ ¬ Quoted chars i ∧ ¬ (chars[i]? = some '-' ∧ WordOpen chars i) ∧
        ∃ c, chars[i]? = some c ∧ Token.special? c = some token := by
  rw [specialAt?, Option.ite_none_left_eq_some, Option.bind_eq_some_iff]
  simp only [not_or, and_assoc]

end Succession

section Scanner

open Token

variable {chars : List Char} {i : Nat} {c : Char} {state : ScanState}

/-- The state of the scanner at a position is told from the characters before it.  The scanner
never stops between a backslash and the character that it escapes. -/
structure Agrees (chars : List Char) (i : Nat) (state : ScanState) : Prop where
  unescaped : ¬ Escaped chars i
  standing : match state with
    | .between => ¬ Quoted chars i ∧ ¬ WordOpen chars i
    | .inWord text => ¬ Quoted chars i ∧ WordOpen chars i ∧ text ≠ ""
    | .inQuote _ => Quoted chars i

namespace Agrees

theorem zero (chars : List Char) : Agrees chars 0 .between where
  unescaped := not_escaped_zero
  standing := ⟨not_quoted_zero, not_wordOpen_zero⟩

theorem quoted_iff (agrees : Agrees chars i state) :
    Quoted chars i ↔ ∃ text, state = .inQuote text := by
  cases state with
  | between => simpa using agrees.standing.1
  | inWord text => simpa using agrees.standing.1
  | inQuote text => simpa using agrees.standing

theorem wordOpen_iff (agrees : Agrees chars i state) (unquoted : ¬ Quoted chars i) :
    WordOpen chars i ↔ ∃ text, state = .inWord text := by
  cases state with
  | between => simpa using agrees.standing.2
  | inWord text => simpa using agrees.standing.2.1
  | inQuote text => exact absurd agrees.standing unquoted

theorem escape (agrees : Agrees chars i state) (backslash : chars[i]? = some '\\')
    (present : chars[i + 1]? = some c) : Agrees chars (i + 2) (state.escape c) := by
  have escaped : Escaped chars (i + 1) := (escaped_succ backslash).2 ⟨rfl, agrees.unescaped⟩
  have noQuote : ¬ IsQuote chars i := by simp [IsQuote, backslash]
  have noQuoteNext : ¬ IsQuote chars (i + 1) := fun quote => quote.2 escaped
  have quotedEq : Quoted chars (i + 2) ↔ Quoted chars i :=
    (quoted_succ noQuoteNext).trans (quoted_succ noQuote)
  have wordOpen (unquoted : ¬ Quoted chars i) : WordOpen chars (i + 2) := by
    refine (wordOpen_succ chars (i + 1)).2 (.inl ⟨?_, c, present, .inl escaped⟩)
    rwa [quoted_succ noQuote]
  constructor
  · intro twice
    exact ((escaped_succ present).1 twice).2 escaped
  · cases state with
    | between =>
        have unquoted := agrees.standing.1
        exact ⟨quotedEq.not.2 unquoted, wordOpen unquoted, String.singleton_ne_empty⟩
    | inWord text =>
        have unquoted := agrees.standing.1
        exact ⟨quotedEq.not.2 unquoted, wordOpen unquoted, String.push_ne_empty⟩
    | inQuote text => exact quotedEq.2 agrees.standing

theorem isQuote_iff (agrees : Agrees chars i state) (present : chars[i]? = some c) :
    IsQuote chars i ↔ c = '"' := by
  rw [IsQuote, present, Option.some_inj]
  exact and_iff_left agrees.unescaped

theorem wordOpen_succ_iff (agrees : Agrees chars i state) (present : chars[i]? = some c) :
    WordOpen chars (i + 1) ↔
      (¬ Quoted chars i ∧ isNameChar c = true) ∨ (c = '-' ∧ WordOpen chars i) := by
  have wordChar : IsWordChar chars i ↔ ¬ Quoted chars i ∧ isNameChar c = true := by
    simp [IsWordChar, present, agrees.unescaped]
  rw [wordOpen_succ, wordChar, present, Option.some_inj]

theorem not_quoted (agrees : Agrees chars i state) (unquoted : ∀ text, state ≠ .inQuote text) :
    ¬ Quoted chars i := by
  rw [agrees.quoted_iff]
  exact not_exists.2 unquoted

theorem advance (agrees : Agrees chars i state) (present : chars[i]? = some c)
    (notEscape : c ≠ '\\') : Agrees chars (i + 1) (state.advance c).2 := by
  have quoteIff := agrees.isQuote_iff present
  have openIff := agrees.wordOpen_succ_iff present
  have outside (unquoted : ∀ text, state ≠ .inQuote text) (noQuote : c ≠ '"') :
      ¬ Quoted chars (i + 1) :=
    (quoted_succ (quoteIff.not.2 noQuote)).not.2 (agrees.not_quoted unquoted)
  have step := ScanState.advances notEscape state
  constructor
  · intro escaped
    exact notEscape ((escaped_succ present).1 escaped).1
  · generalize (state.advance c).1 = tokens, (state.advance c).2 = next at step
    cases step with
    | inside text noQuote =>
        exact (quoted_succ (quoteIff.not.2 noQuote)).2 agrees.standing
    | closing text quote =>
        have inside : Quoted chars i := agrees.standing
        constructor
        · exact (quoted_succ_of_isQuote (quoteIff.2 quote)).not.2 (not_not.2 inside)
        · rw [openIff]
          rintro (⟨outside, -⟩ | ⟨dash, -⟩)
          · exact outside inside
          · cases quote.symm.trans dash
    | opening unquoted quote =>
        exact (quoted_succ_of_isQuote (quoteIff.2 quote)).2 (agrees.not_quoted unquoted)
    | blank unquoted blank =>
        refine ⟨outside unquoted (ne_of_isBlank blank rfl), ?_⟩
        rw [openIff]
        rintro (⟨-, nameChar⟩ | ⟨dash, -⟩)
        · cases (unreserved_of_isNameChar nameChar).2.1.symm.trans blank
        · exact ne_of_isBlank blank rfl dash
    | special unquoted meaning noDash =>
        obtain ⟨-, -, noQuote⟩ := unreserved_of_special meaning
        refine ⟨outside unquoted noQuote, ?_⟩
        rw [openIff, agrees.wordOpen_iff (agrees.not_quoted unquoted)]
        rintro (⟨-, nameChar⟩ | ⟨dash, text, inWord⟩)
        · rw [special_of_isNameChar nameChar] at meaning
          cases meaning
        · exact noDash dash text inWord
    | dash text dash =>
        have noQuote : c ≠ '"' := by
          rintro rfl
          cases dash
        obtain ⟨-, wordOpen, -⟩ := agrees.standing
        exact ⟨outside nofun noQuote, openIff.2 (.inr ⟨dash, wordOpen⟩), String.push_ne_empty⟩
    | plain unquoted nameChar =>
        have noQuote := (unreserved_of_isNameChar nameChar).2.2
        have outsideBefore := agrees.not_quoted unquoted
        exact ⟨outside unquoted noQuote, openIff.2 (.inl ⟨outsideBefore, nameChar⟩),
          String.push_ne_empty⟩

end Agrees

theorem getElem?_of_drop {rest : List Char} (dropped : chars.drop i = c :: rest) :
    chars[i]? = some c := by
  rw [← List.head?_drop, dropped]
  rfl

theorem drop_succ_of_drop {rest : List Char} (dropped : chars.drop i = c :: rest) :
    chars.drop (i + 1) = rest := by
  rw [← List.tail_drop, dropped]
  rfl

/-- The scanner, from one position to the next. -/
theorem induction_on_positions (chars : List Char) {motive : Nat → ScanState → Prop}
    (finish : ∀ state, Agrees chars chars.length state → motive chars.length state)
    (dangling : ∀ i state, Agrees chars i state → chars.drop i = ['\\'] → motive i state)
    (escape : ∀ i state c, Agrees chars i state → chars.drop i = '\\' :: c :: chars.drop (i + 2) →
      motive (i + 2) (state.escape c) → motive i state)
    (advance : ∀ i state c, Agrees chars i state → c ≠ '\\' →
      chars.drop i = c :: chars.drop (i + 1) → motive (i + 1) (state.advance c).2 →
      motive i state) :
    motive 0 .between := by
  -- the scanner recurses on the text that remains, so the position only follows it
  have follows : ∀ state remaining i, Agrees chars i state → i ≤ chars.length →
      chars.drop i = remaining → motive i state := by
    intro state remaining
    induction state, remaining using scan_induction with
    | nil state =>
        intro i agrees within dropped
        have past : chars.length ≤ i := List.drop_eq_nil_iff.1 dropped
        obtain rfl : i = chars.length := by omega
        exact finish state agrees
    | dangling state =>
        intro i agrees _ dropped
        exact dangling i state agrees dropped
    | escape state c rest ih =>
        intro i agrees _ dropped
        have droppedNext := drop_succ_of_drop dropped
        have droppedRest := drop_succ_of_drop droppedNext
        have present := getElem?_of_drop droppedNext
        have within : i + 1 < chars.length := (List.getElem?_eq_some_iff.1 present).1
        have agreesNext := agrees.escape (getElem?_of_drop dropped) present
        refine escape i state c agrees ?_ (ih (i + 2) agreesNext (by omega) droppedRest)
        rw [dropped, droppedRest]
    | advance state c rest notEscape ih =>
        intro i agrees _ dropped
        have droppedRest := drop_succ_of_drop dropped
        have present := getElem?_of_drop dropped
        have within : i < chars.length := (List.getElem?_eq_some_iff.1 present).1
        have agreesNext := agrees.advance present notEscape
        refine advance i state c agrees notEscape ?_
          (ih (i + 1) agreesNext (by omega) droppedRest)
        rw [dropped, droppedRest]
  exact follows .between chars 0 (.zero chars) (Nat.zero_le _) rfl

end Scanner

end Line
end CommandShell
