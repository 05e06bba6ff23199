import CommandShell.Token.Lexer
import CommandShell.Token.Quoted

/-!
# Scanning written tokens

Between two words the scanner takes a written token off the front of the line as that
very token, whatever follows: a word in double quotes ends at its closing quote, and no
character in it means anything.  So `tokenize_writeSpaced` says that any tokens at all can be
written in a line, next to one another or with blanks around them.
-/

namespace CommandShell
namespace Token

theorem scan_nil : scan .between [] = .ok [] := by
  rw [scan.eq_def]
  rfl

theorem scan_inQuote_escape (text : String) (c : Char) (rest : List Char) :
    scan (.inQuote text) ('\\' :: c :: rest) = scan (.inQuote (text.push c)) rest := by
  rw [scan.eq_def]
  rfl

theorem scan_inQuote {c : Char} (notEscape : c ≠ '\\') (text : String)
    (rest : List Char) :
    scan (.inQuote text) (c :: rest) =
      if c = '"' then (.word text :: ·) <$> scan .between rest
      else scan (.inQuote (text.push c)) rest := by
  rw [scan.eq_def]
  split <;> simp_all

theorem scan_between {c : Char} (notEscape : c ≠ '\\') (rest : List Char) :
    scan .between (c :: rest) =
      if isBlank c then scan .between rest
      else if c = '"' then scan (.inQuote "") rest
      else
        match special? c with
        | some token => (token :: ·) <$> scan .between rest
        | none => scan (.inWord (String.singleton c)) rest := by
  cases meaning : special? c <;> rw [scan.eq_def] <;> split <;>
    simp_all [ScanState.flush, ScanState.text]

/-- The scanner is in a quoted word up to its closing quote. -/
theorem scan_escapedChars (text : String) (chars rest : List Char) :
    scan (.inQuote text) (escapedChars chars ++ '"' :: rest) =
      (.word (text ++ String.ofList chars) :: ·) <$> scan .between rest := by
  induction chars generalizing text with
  | nil =>
      rw [escapedChars, List.nil_append, scan_inQuote (by decide), if_pos rfl,
        String.ofList_nil, String.append_empty]
  | cons c chars ih =>
      have pushed : text.push c ++ String.ofList chars =
          text ++ String.ofList (c :: chars) := by
        simp [← String.toList_inj]
      rw [← pushed, ← ih, escapedChars]
      split
      · exact scan_inQuote_escape text c _
      · next plain =>
          rw [not_or] at plain
          rw [List.cons_append, scan_inQuote plain.1, if_neg plain.2]

theorem scan_quoted (text : String) (rest : List Char) :
    scan .between ((quoted text).toList ++ rest) =
      (.word text :: ·) <$> scan .between rest := by
  have written : (quoted text).toList ++ rest =
      '"' :: (escapedChars text.toList ++ '"' :: rest) := by
    simp [quoted]
  rw [written, scan_between (by decide), if_neg (by decide), if_pos rfl,
    scan_escapedChars, String.empty_append, String.ofList_toList]

theorem unreserved_of_special {c : Char} {token : Token}
    (meaning : special? c = some token) :
    c ≠ '\\' ∧ isBlank c = false ∧ c ≠ '"' := by
  unfold special? at meaning
  split at meaning <;> first | decide | cases meaning

theorem scan_special {c : Char} {token : Token} (meaning : special? c = some token)
    (rest : List Char) :
    scan .between (c :: rest) = (token :: ·) <$> scan .between rest := by
  obtain ⟨notEscape, notBlank, notQuote⟩ := unreserved_of_special meaning
  simp only [scan_between notEscape, notBlank, notQuote, meaning, if_false,
    Bool.false_eq_true]

theorem ne_of_isBlank {c d : Char} (blank : isBlank c = true) (notBlank : isBlank d = false) :
    c ≠ d := by
  rintro rfl
  cases notBlank.symm.trans blank

theorem scan_blank {c : Char} (blank : isBlank c = true) (rest : List Char) :
    scan .between (c :: rest) = scan .between rest := by
  rw [scan_between (ne_of_isBlank blank rfl), if_pos blank]

/-- A written token is scanned as that token. -/
theorem scan_written (token : Token) (rest : List Char) :
    scan .between (token.written.toList ++ rest) =
      (token :: ·) <$> scan .between rest := by
  cases token with
  | word text => exact scan_quoted text rest
  | separator => exact scan_special rfl rest
  | assign => exact scan_special rfl rest
  | flagMarker => exact scan_special rfl rest
  | moduleDelimiter => exact scan_special rfl rest
  | previousOutput => exact scan_special rfl rest
  | macroMarker => exact scan_special rfl rest

/-- Tokens in written form, each right behind the one before it. -/
def writeAll (tokens : List Token) : String := String.join (tokens.map written)

theorem scan_writeAll (tokens : List Token) (rest : List Char) :
    scan .between ((writeAll tokens).toList ++ rest) =
      (tokens ++ ·) <$> scan .between rest := by
  induction tokens with
  | nil => exact (id_map _).symm
  | cons token tokens ih =>
      have written : (writeAll (token :: tokens)).toList ++ rest =
          token.written.toList ++ ((writeAll tokens).toList ++ rest) := by
        simp [writeAll]
      rw [written, scan_written, ih, Functor.map_map]
      rfl

theorem scan_blanks {chars : List Char} (blank : chars.all isBlank = true)
    (rest : List Char) : scan .between (chars ++ rest) = scan .between rest := by
  induction chars with
  | nil => rfl
  | cons c chars ih =>
      rw [List.all_cons, Bool.and_eq_true] at blank
      rw [List.cons_append, scan_blank blank.1, ih blank.2]

/-- Tokens in written form, each behind the text that is paired with it. -/
def writeSpaced (pieces : List (String × Token)) : String :=
  String.join (pieces.map fun piece => piece.1 ++ piece.2.written)

theorem scan_writeSpaced {pieces : List (String × Token)}
    (blank : ∀ piece ∈ pieces, isBlankText piece.1 = true) (rest : List Char) :
    scan .between ((writeSpaced pieces).toList ++ rest) =
      (pieces.map (·.2) ++ ·) <$> scan .between rest := by
  induction pieces with
  | nil => exact (id_map _).symm
  | cons piece pieces ih =>
      rw [List.forall_mem_cons] at blank
      have chars : (writeSpaced (piece :: pieces)).toList ++ rest =
          piece.1.toList ++
            (piece.2.written.toList ++ ((writeSpaced pieces).toList ++ rest)) := by
        simp [writeSpaced]
      rw [chars, scan_blanks blank.1, scan_written, ih blank.2, Functor.map_map]
      rfl

end Token

theorem tokenize_of_isBlankText {line : String} (blank : isBlankText line = true) :
    tokenize line = .ok [] := by
  have skipped := Token.scan_blanks blank []
  rw [List.append_nil] at skipped
  rw [tokenize, skipped, Token.scan_nil]

/-- Written tokens are read as those tokens, with any blanks or none at all before them,
between them and behind them. -/
theorem tokenize_writeSpaced {pieces : List (String × Token)} {last : String}
    (blank : ∀ piece ∈ pieces, isBlankText piece.1 = true)
    (blankLast : isBlankText last = true) :
    tokenize (Token.writeSpaced pieces ++ last) = .ok (pieces.map (·.2)) := by
  have nothing : Token.scan .between last.toList = .ok [] := tokenize_of_isBlankText blankLast
  rw [tokenize, String.toList_append, Token.scan_writeSpaced blank, nothing]
  exact congrArg Except.ok (List.append_nil _)

/-- Words next to one another and a dash right behind one. -/
def crowded : List (String × Token) :=
  [("", .word "say \"hi\\"), ("", .word ""), ("", .flagMarker), ("\t\u00a0", .word "-;"),
    ("", .macroMarker)]

theorem tokenize_crowded :
    (∀ piece ∈ crowded, isBlankText piece.1 = true) ∧ isBlankText "\n" = true ∧
      tokenize "\"say \\\"hi\\\\\"\"\"-\t\u00a0\"-;\";\n" =
        .ok [.word "say \"hi\\", .word "", .flagMarker, .word "-;", .macroMarker] := by
  have blank : ∀ piece ∈ crowded, isBlankText piece.1 = true := by decide
  have blankLast : isBlankText "\n" = true := by decide
  have written : Token.writeSpaced crowded ++ "\n" =
      "\"say \\\"hi\\\\\"\"\"-\t\u00a0\"-;\";\n" := by decide
  refine ⟨blank, blankLast, ?_⟩
  rw [← written]
  exact tokenize_writeSpaced blank blankLast

end CommandShell
