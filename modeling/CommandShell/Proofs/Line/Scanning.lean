import CommandShell.Name
import CommandShell.Proofs.Line.Lexing
import Mathlib.Tactic.SplitIfs

/-!
# The scanner, one character at a time

A backslash and the character behind it put that character into the word under way, which
begins if there is none.  Any other character completes some tokens and leaves the scanner in
a state that depends on nothing but the character and the state before it; `Advances` lists
what it can do.  `scan_induction` follows the scanner over a line in these steps.
-/

namespace CommandShell
namespace Token

namespace ScanState

/-- The state behind an escaped character. -/
def escape : ScanState → Char → ScanState
  | inQuote text, c => inQuote (text.push c)
  | inWord text, c => inWord (text.push c)
  | between, c => inWord (String.singleton c)

/-- The tokens that are complete with a character that escapes nothing, and the state behind it. -/
def advance : ScanState → Char → List Token × ScanState
  | inQuote text, c => if c = '"' then ([.word text], between) else ([], inQuote (text.push c))
  | inWord text, c =>
      if isBlank c then ([.word text], between)
      else if c = '"' then ([], inQuote text)
      else
        match special? c with
        | some .flagMarker => ([], inWord (text.push c))
        | some token => ([.word text, token], between)
        | none => ([], inWord (text.push c))
  | between, c =>
      if isBlank c then ([], between)
      else if c = '"' then ([], inQuote "")
      else
        match special? c with
        | some token => ([token], between)
        | none => ([], inWord (String.singleton c))

@[simp]
theorem text_between : between.text = "" := rfl

@[simp]
theorem text_inWord (text : String) : (inWord text).text = text := rfl

@[simp]
theorem text_inQuote (text : String) : (inQuote text).text = text := rfl

end ScanState

section Characters

variable {c : Char} {text : String}

theorem isNameChar_of_plain (notBlank : isBlank c = false) (notQuote : c ≠ '"')
    (notEscape : c ≠ '\\') (meaningless : special? c = none) : isNameChar c = true := by
  unfold special? at meaningless
  split at meaningless <;> simp_all [isNameChar, reservedChars]

theorem unreserved_of_isNameChar (nameChar : isNameChar c = true) :
    c ≠ '\\' ∧ isBlank c = false ∧ c ≠ '"' := by
  refine ⟨?_, ?_, ?_⟩
  · rintro rfl
    cases nameChar
  · cases blank : isBlank c with
    | false => rfl
    | true => simp [isNameChar, blank] at nameChar
  · rintro rfl
    cases nameChar

theorem special_of_isNameChar (nameChar : isNameChar c = true) : special? c = none := by
  unfold special?
  split <;> first | rfl | cases nameChar

theorem eq_dash_of_special (meaning : special? c = some .flagMarker) : c = '-' := by
  unfold special? at meaning
  split at meaning <;> first | rfl | cases meaning

theorem special_ne_word : special? c ≠ some (.word text) := by
  unfold special?
  split <;> simp

theorem special_dot : special? '.' = some .moduleDelimiter := rfl

theorem special_marker : special? ';' = some .macroMarker := rfl

theorem special_equals : special? '=' = some .assign := rfl

theorem special_dash : special? '-' = some .flagMarker := rfl

end Characters

namespace ScanState

/-- The steps of the scanner at a character that escapes nothing. -/
inductive Advances (c : Char) : ScanState → List Token → ScanState → Prop
  | inside (text : String) (noQuote : c ≠ '"') :
      Advances c (inQuote text) [] (inQuote (text.push c))
  | closing (text : String) (quote : c = '"') : Advances c (inQuote text) [.word text] between
  | opening {state : ScanState} (unquoted : ∀ text, state ≠ inQuote text) (quote : c = '"') :
      Advances c state [] (inQuote state.text)
  | blank {state : ScanState} (unquoted : ∀ text, state ≠ inQuote text)
      (blank : isBlank c = true) : Advances c state state.flush between
  | special {state : ScanState} {token : Token} (unquoted : ∀ text, state ≠ inQuote text)
      (meaning : special? c = some token) (noDash : c = '-' → ∀ text, state ≠ inWord text) :
      Advances c state (state.flush ++ [token]) between
  | dash (text : String) (dash : c = '-') : Advances c (inWord text) [] (inWord (text.push c))
  | plain {state : ScanState} (unquoted : ∀ text, state ≠ inQuote text)
      (nameChar : isNameChar c = true) : Advances c state [] (inWord (state.text.push c))

theorem advances {c : Char} (notEscape : c ≠ '\\') (state : ScanState) :
    Advances c state (state.advance c).1 (state.advance c).2 := by
  cases state with
  | inQuote text =>
      by_cases quote : c = '"'
      · rw [advance, if_pos quote]
        exact .closing text quote
      · rw [advance, if_neg quote]
        exact .inside text quote
  | between =>
      rw [advance]
      split_ifs with blank quote
      · exact .blank nofun blank
      · exact .opening nofun quote
      · cases meaning : special? c with
        | some token => exact .special nofun meaning nofun
        | none =>
            have notBlank : isBlank c = false := by simpa using blank
            exact .plain nofun (isNameChar_of_plain notBlank quote notEscape meaning)
  | inWord text =>
      rw [advance]
      split_ifs with blank quote
      · exact .blank nofun blank
      · exact .opening nofun quote
      · split
        · next meaning => exact .dash text (eq_dash_of_special meaning)
        · next token noFlag meaning =>
            refine .special nofun meaning ?_
            rintro rfl
            exact absurd (Option.some.inj meaning).symm noFlag
        · next meaning =>
            have notBlank : isBlank c = false := by simpa using blank
            exact .plain nofun (isNameChar_of_plain notBlank quote notEscape meaning)

end ScanState

variable {c : Char}

theorem scan_dangling (state : ScanState) : scan state ['\\'] = .error .unterminatedEscape := by
  cases state <;> rw [scan.eq_def] <;> rfl

theorem scan_escape (state : ScanState) (c : Char) (rest : List Char) :
    scan state ('\\' :: c :: rest) = scan (state.escape c) rest := by
  cases state <;> rw [scan.eq_def] <;> rfl

theorem scan_inWord (notEscape : c ≠ '\\') (text : String) (rest : List Char) :
    scan (.inWord text) (c :: rest) =
      if isBlank c then (.word text :: ·) <$> scan .between rest
      else if c = '"' then scan (.inQuote text) rest
      else
        match special? c with
        | some .flagMarker => scan (.inWord (text.push c)) rest
        | some token => ([.word text, token] ++ ·) <$> scan .between rest
        | none => scan (.inWord (text.push c)) rest := by
  cases meaning : special? c with
  | none =>
      rw [scan.eq_def]
      split <;> simp_all [ScanState.flush, ScanState.text]
  | some token =>
      cases token <;> rw [scan.eq_def] <;> split <;>
        simp_all [ScanState.flush, ScanState.text]

theorem scan_advance (notEscape : c ≠ '\\') (state : ScanState) (rest : List Char) :
    scan state (c :: rest) =
      ((state.advance c).1 ++ ·) <$> scan (state.advance c).2 rest := by
  cases state with
  | inQuote text =>
      rw [scan_inQuote notEscape, ScanState.advance]
      split <;> simp
  | between =>
      rw [scan_between notEscape, ScanState.advance]
      cases special? c <;> split_ifs <;> simp
  | inWord text =>
      rw [scan_inWord notEscape, ScanState.advance]
      cases special? c with
      | none => split_ifs <;> simp
      | some token => cases token <;> split_ifs <;> simp

theorem scan_induction {motive : ScanState → List Char → Prop}
    (nil : ∀ state, motive state [])
    (dangling : ∀ state, motive state ['\\'])
    (escape : ∀ state c rest, motive (state.escape c) rest → motive state ('\\' :: c :: rest))
    (advance : ∀ state c rest, c ≠ '\\' → motive (state.advance c).2 rest →
      motive state (c :: rest))
    (state : ScanState) (chars : List Char) : motive state chars := by
  match chars with
  | [] => exact nil state
  | c :: rest =>
      by_cases isEscape : c = '\\'
      · subst isEscape
        match rest with
        | [] => exact dangling state
        | c :: rest =>
            exact escape state c rest (scan_induction nil dangling escape advance _ rest)
      · exact advance state c rest isEscape (scan_induction nil dangling escape advance _ rest)

end Token
end CommandShell
