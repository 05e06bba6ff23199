import CommandShell.Proofs.Line.Position

/-!
# Lines that are not terminated

Whether a line can be scanned is a matter of counting.  A line that ends with an odd number of
backslashes lacks the character to escape, whether or not a quote is open there.  Any other
line lacks a closing quote exactly if the number of its quotes, without the escaped ones, is
odd.  Nothing else keeps a line from being scanned.
-/

namespace CommandShell

namespace Line

/-- Whether a line ends with a run of backslashes of odd length. -/
def EndsEscaping (chars : List Char) : Prop := Odd (backslashRun chars chars.length)

/-- The number of quotes in a line, without those that are escaped. -/
def quoteCount (chars : List Char) : Nat := quotesBefore chars chars.length

/-- The error of a line that is not terminated, told from the end and the quotes of the line. -/
inductive Unterminated (chars : List Char) : ShellError → Prop
  | escape (escaping : EndsEscaping chars) : Unterminated chars .unterminatedEscape
  | quote (complete : ¬ EndsEscaping chars) (odd : Odd (quoteCount chars)) :
      Unterminated chars .unterminatedQuote

theorem scan_eq_error_iff (chars : List Char) (error : ShellError) :
    Token.scan .between chars = .error error ↔ Unterminated chars error := by
  refine induction_on_positions chars
    (motive := fun i state => Token.scan state (chars.drop i) = .error error ↔
      Unterminated chars error) ?finish ?dangling ?escape ?advance
  case finish =>
    intro state agrees
    have complete : ¬ EndsEscaping chars := agrees.unescaped
    have oddIff : Odd (quoteCount chars) ↔ ∃ text, state = .inQuote text := agrees.quoted_iff
    rw [List.drop_length]
    cases state with
    | between | inWord =>
        constructor
        · rintro ⟨⟩
        · rintro (escaping | ⟨-, odd⟩)
          · exact absurd escaping complete
          · obtain ⟨_, ⟨⟩⟩ := oddIff.1 odd
    | inQuote text =>
        constructor
        · rintro ⟨⟩
          exact .quote complete (oddIff.2 ⟨text, rfl⟩)
        · rintro (escaping | _)
          · exact absurd escaping complete
          · rfl
  case dangling =>
    intro i state agrees dropped
    have lengthEq : chars.length = i + 1 := by
      have lengths := congrArg List.length dropped
      rw [List.length_drop, List.length_singleton] at lengths
      omega
    have escaping : EndsEscaping chars := by
      have escaped := (escaped_succ (getElem?_of_drop dropped)).2 ⟨rfl, agrees.unescaped⟩
      rwa [← lengthEq] at escaped
    rw [dropped, Token.scan_dangling]
    constructor
    · rintro ⟨⟩
      exact .escape escaping
    · rintro (_ | ⟨complete, -⟩)
      · rfl
      · exact absurd escaping complete
  case escape =>
    intro i state c agrees dropped ih
    rw [dropped, Token.scan_escape]
    exact ih
  case advance =>
    intro i state c agrees notEscape dropped ih
    rw [dropped, Token.scan_advance notEscape, map_eq_error_iff]
    exact ih

end Line

/-- A line fails to be scanned exactly if it ends in an escape, or else has a quote too many or
one too few, and each of the two has an error of its own. -/
theorem tokenize_fails_iff_unterminated (line : String) :
    (tokenize line = .error .unterminatedEscape ↔ Line.EndsEscaping line.toList) ∧
      (tokenize line = .error .unterminatedQuote ↔
        ¬ Line.EndsEscaping line.toList ∧ Odd (Line.quoteCount line.toList)) ∧
      ((∃ tokens, tokenize line = .ok tokens) ↔
        ¬ Line.EndsEscaping line.toList ∧ ¬ Odd (Line.quoteCount line.toList)) := by
  have errorIff (error : ShellError) : tokenize line = .error error ↔
      Line.Unterminated line.toList error := Line.scan_eq_error_iff line.toList error
  refine ⟨?_, ?_, ?_⟩
  · rw [errorIff]
    constructor
    · rintro ⟨escaping⟩
      exact escaping
    · exact .escape
  · rw [errorIff]
    constructor
    · rintro ⟨⟩
      exact ⟨‹_›, ‹_›⟩
    · rintro ⟨complete, odd⟩
      exact .quote complete odd
  · cases scanned : tokenize line with
    | ok tokens =>
        have noError (error : ShellError) : ¬ Line.Unterminated line.toList error := by
          rw [← errorIff, scanned]
          nofun
        constructor
        · intro _
          have complete : ¬ Line.EndsEscaping line.toList := fun escaping =>
            noError _ (.escape escaping)
          exact ⟨complete, fun odd => noError _ (.quote complete odd)⟩
        · intro _
          exact ⟨tokens, rfl⟩
    | error error =>
        constructor
        · rintro ⟨_, ⟨⟩⟩
        · rintro ⟨complete, even⟩
          rcases (errorIff error).1 scanned with escaping | ⟨-, odd⟩
          · exact absurd escaping complete
          · exact absurd odd even

end CommandShell
