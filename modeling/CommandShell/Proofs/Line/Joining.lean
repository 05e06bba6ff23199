import CommandShell.Proofs.Line.Position

/-!
# Lines that are put together

Of the text that the scanner has read it remembers no more than its state, and the state at the
end of a text that can be scanned is told from the text (`exists_stop_of_scan`).  So what follows
is scanned as if the line began there, provided that it ends the word that is open, or that none
is open: behind a blank, behind a special token and behind a closing quote.
-/

namespace CommandShell

namespace Token

variable {state : ScanState} {rest : List Char}

theorem scan_of_endsWord (ends : EndsWord rest) (unquoted : ∀ text, state ≠ .inQuote text) :
    scan state rest = (state.flush ++ ·) <$> scan .between rest := by
  cases state with
  | between => exact (id_map _).symm
  | inWord text => exact scan_inWord_of_endsWord ends text
  | inQuote text => exact absurd rfl (unquoted text)

end Token

namespace Line

open Token

variable {chars rest : List Char} {tokens : List Token}

/-- From a state at a position the scanner gets to `stop` at the end of the line, with the tokens
`complete` on the way, whatever the line goes on with. -/
structure Stops (chars : List Char) (i : Nat) (state : ScanState) (complete : List Token)
    (stop : ScanState) : Prop where
  agrees : Agrees chars chars.length stop
  unquoted : ∀ text, stop ≠ .inQuote text
  goesOn : ∀ rest, scan state (chars.drop i ++ rest) = (complete ++ ·) <$> scan stop rest

/-- A line that can be scanned leaves the scanner outside quotes.  Its tokens are those that are
complete at its end and the word that is open there, with which the rest of a longer line goes
on. -/
theorem exists_stop_of_scan (scanned : scan .between chars = .ok tokens) :
    ∃ complete stop, Stops chars 0 .between complete stop ∧ tokens = complete ++ stop.flush := by
  have follows : ∀ tokens, scan .between (chars.drop 0) = .ok tokens →
      ∃ complete stop, Stops chars 0 .between complete stop ∧
        tokens = complete ++ stop.flush := by
    refine induction_on_positions chars
      (motive := fun i state => ∀ tokens, scan state (chars.drop i) = .ok tokens →
        ∃ complete stop, Stops chars i state complete stop ∧ tokens = complete ++ stop.flush)
      ?finish ?dangling ?escape ?advance
    case finish =>
      intro state agrees tokens scanned
      rw [List.drop_length] at scanned
      cases state with
      | between | inWord =>
          cases scanned
          refine ⟨[], _, ⟨agrees, nofun, ?_⟩, rfl⟩
          intro rest
          rw [List.drop_length]
          exact (id_map _).symm
      | inQuote => cases scanned
    case dangling =>
      intro i state agrees dropped tokens scanned
      rw [dropped, scan_dangling] at scanned
      cases scanned
    case escape =>
      intro i state c agrees dropped ih tokens scanned
      rw [dropped, scan_escape] at scanned
      obtain ⟨complete, stop, stops, tokensEq⟩ := ih tokens scanned
      refine ⟨complete, stop, ⟨stops.agrees, stops.unquoted, ?_⟩, tokensEq⟩
      intro rest
      rw [dropped, List.cons_append, List.cons_append, scan_escape, stops.goesOn]
    case advance =>
      intro i state c agrees notEscape dropped ih tokens scanned
      rw [dropped, scan_advance notEscape] at scanned
      obtain ⟨later, scannedLater, ⟨⟩⟩ := bind_eq_ok_iff.1 scanned
      obtain ⟨complete, stop, stops, rfl⟩ := ih later scannedLater
      refine ⟨(state.advance c).1 ++ complete, stop, ⟨stops.agrees, stops.unquoted, ?_⟩, ?_⟩
      · intro rest
        rw [dropped, List.cons_append, scan_advance notEscape, stops.goesOn, Functor.map_map]
        simp only [List.append_assoc]
      · rw [List.append_assoc]
  exact follows tokens scanned

/-- What ends a word cuts a line in two that are scanned one without the other. -/
theorem scan_append (ends : EndsWord rest) (scanned : scan .between chars = .ok tokens) :
    scan .between (chars ++ rest) = (tokens ++ ·) <$> scan .between rest := by
  obtain ⟨complete, stop, ⟨-, unquoted, goesOn⟩, rfl⟩ := exists_stop_of_scan scanned
  rw [List.drop_zero] at goesOn
  rw [goesOn, scan_of_endsWord ends unquoted, Functor.map_map]
  simp only [List.append_assoc]

theorem scan_append_of_not_wordOpen (closed : ¬ WordOpen chars chars.length)
    (scanned : scan .between chars = .ok tokens) :
    scan .between (chars ++ rest) = (tokens ++ ·) <$> scan .between rest := by
  obtain ⟨complete, stop, ⟨agrees, unquoted, goesOn⟩, rfl⟩ := exists_stop_of_scan scanned
  rw [List.drop_zero] at goesOn
  rw [goesOn]
  cases stop with
  | between => simp [ScanState.flush]
  | inWord text => exact absurd agrees.standing.2.1 closed
  | inQuote text => exact absurd rfl (unquoted text)

/-- Whether a line is empty or its last character is a special token or closes a quote. -/
inductive EndsClosed (chars : List Char) : Prop
  | nil (empty : chars = [])
  | special {i : Nat} {token : Token} (last : chars.length = i + 1)
      (special : specialAt? chars i = some token)
  | quote {i : Nat} (last : chars.length = i + 1) (quote : IsQuote chars i)
      (quoted : Quoted chars i)

theorem EndsClosed.not_wordOpen (closed : EndsClosed chars) : ¬ WordOpen chars chars.length := by
  cases closed with
  | nil empty => simp [empty]
  | @special i token last special =>
      obtain ⟨unescaped, -, noDash, c, present, meaning⟩ := specialAt?_eq_some_iff.1 special
      rw [last, wordOpen_succ, not_or]
      refine ⟨?_, noDash⟩
      rintro ⟨-, d, presentToo, wordChar⟩
      obtain rfl : c = d := Option.some.inj (present.symm.trans presentToo)
      rcases wordChar with escaped | nameChar
      · exact unescaped escaped
      · rw [special_of_isNameChar nameChar] at meaning
        cases meaning
  | @quote i last quote quoted =>
      rw [last, wordOpen_succ, not_or]
      constructor
      · intro wordChar
        exact wordChar.1 quoted
      · rintro ⟨dash, -⟩
        cases quote.1.symm.trans dash

end Line

/-- A line whose tokens are `tokens` and then those of the text `after`, if that can be scanned.
If not, the line fails with its error. -/
structure Continues (tokens : List Token) (after line : String) : Prop where
  scanned : ∀ later, tokenize after = .ok later → tokenize line = .ok (tokens ++ later)
  unscanned : ∀ error, tokenize after = .error error → tokenize line = .error error

theorem Continues.of_map {tokens : List Token} {after line : String}
    (mapped : tokenize line = (tokens ++ ·) <$> tokenize after) : Continues tokens after line where
  scanned later scannedAfter := by
    rw [mapped, scannedAfter]
    rfl
  unscanned error fails := by
    rw [mapped, fails]
    rfl

/-- Any text goes on with a line behind a blank, and it does so behind a special token, behind a
closing quote and at the beginning, with nothing in between. -/
theorem continues_of_tokenize {before : String} {tokens : List Token}
    (scanned : tokenize before = .ok tokens) :
    (∀ blank, isBlank blank = true → ∀ after,
      Continues tokens after (before ++ String.singleton blank ++ after)) ∧
      (Line.EndsClosed before.toList → ∀ after, Continues tokens after (before ++ after)) := by
  constructor
  · intro c blank after
    apply Continues.of_map
    have chars : (before ++ String.singleton c ++ after).toList =
        before.toList ++ c :: after.toList := by simp
    rw [tokenize, chars, Line.scan_append (.blank blank) scanned, Token.scan_blank blank, tokenize]
  · intro closed after
    apply Continues.of_map
    rw [tokenize, String.toList_append,
      Line.scan_append_of_not_wordOpen closed.not_wordOpen scanned, tokenize]

/-- A dash behind a closing quote is a flag marker as if it began the line, with a blank before it
or without one, and an escape without a character is an error there as well. -/
theorem continues_behind_quote :
    tokenize "x=\"; \"" = .ok [.word "x", .assign, .word "; "] ∧ isBlank '\u3000' = true ∧
      Line.EndsClosed "x=\"; \"".toList ∧
      tokenize "x=\"; \"\u3000-n" = .ok [.word "x", .assign, .word "; ", .flagMarker, .word "n"] ∧
      tokenize "x=\"; \"-n\\" = .error .unterminatedEscape := by
  have scanned : tokenize "x=\"; \"" = .ok [.word "x", .assign, .word "; "] := by rfl
  have blank : isBlank '\u3000' = true := by decide
  have closed : Line.EndsClosed "x=\"; \"".toList :=
    .quote (by decide : _ = 5 + 1) (by decide) (by decide)
  obtain ⟨behindBlank, behindQuote⟩ := continues_of_tokenize scanned
  have spaced := (behindBlank '\u3000' blank "-n").scanned [.flagMarker, .word "n"] (by rfl)
  have joined := (behindQuote closed "-n\\").unscanned .unterminatedEscape (by rfl)
  have spacedEq : "x=\"; \"" ++ String.singleton '\u3000' ++ "-n" = "x=\"; \"\u3000-n" := by
    decide
  have joinedEq : "x=\"; \"" ++ "-n\\" = "x=\"; \"-n\\" := by decide
  rw [spacedEq] at spaced
  rw [joinedEq] at joined
  exact ⟨scanned, blank, closed, spaced, joined⟩

end CommandShell
