import CommandShell.Proofs.Line.Scanning

/-!
# Names in lines

Names are told from other texts by their characters, and words by the scanner.  Both
notions agree: a text without dashes is a valid name exactly if the scanner takes it as one
word that is the text itself.  So a name can stand in a line as it is, wherever something
follows that ends a word.
-/

namespace CommandShell

namespace Token

section Spelling

theorem text_of_special {c : Char} {token : Token} (meaning : special? c = some token) :
    token.text = String.singleton c := by
  unfold special? at meaning
  split at meaning <;> cases meaning <;> rfl

/-- The characters that tokens are made of. -/
def spelled (tokens : List Token) : List Char :=
  tokens.flatMap fun token => token.text.toList

@[simp]
theorem spelled_append (first second : List Token) :
    spelled (first ++ second) = spelled first ++ spelled second :=
  List.flatMap_append

theorem spelled_flush {state : ScanState} (unquoted : ∀ text, state ≠ .inQuote text) :
    spelled state.flush = state.text.toList := by
  cases state with
  | between => rfl
  | inWord content => simp [spelled, ScanState.flush, ScanState.text, Token.text]
  | inQuote content => exact absurd rfl (unquoted content)

variable {state : ScanState} {chars : List Char} {tokens : List Token}

theorem ScanState.text_escape (state : ScanState) (c : Char) :
    (state.escape c).text = state.text.push c := by
  cases state <;> rfl

/-- A step of the scanner may drop its character, but it neither adds nor moves any. -/
theorem ScanState.Advances.spelled_sublist {c : Char} {next : ScanState}
    (step : Advances c state tokens next) :
    (spelled tokens ++ next.text.toList).Sublist (state.text.toList ++ [c]) := by
  cases step with
  | inside | dash | plain => simp [spelled]
  | closing | opening => simp [spelled, Token.text]
  | blank unquoted => simp [spelled_flush unquoted]
  | special unquoted meaning =>
      have textEq := congrArg String.toList (text_of_special meaning)
      rw [spelled_append, spelled_flush unquoted]
      simp [spelled, textEq]

/-- Scanning drops characters, but it neither adds nor moves any. -/
theorem spelled_sublist (scanned : scan state chars = .ok tokens) :
    (spelled tokens).Sublist (state.text.toList ++ chars) := by
  induction state, chars using scan_induction generalizing tokens with
  | nil state =>
      cases state with
      | between | inWord =>
          cases scanned
          simp [spelled_flush]
      | inQuote => cases scanned
  | dangling state =>
      rw [scan_dangling] at scanned
      cases scanned
  | escape state c rest ih =>
      rw [scan_escape] at scanned
      have shorter := ih scanned
      rw [ScanState.text_escape, String.toList_push, List.append_assoc] at shorter
      exact shorter.trans (by simp)
  | advance state c rest notEscape ih =>
      rw [scan_advance notEscape] at scanned
      obtain ⟨later, scannedLater, ⟨⟩⟩ := bind_eq_ok_iff.1 scanned
      have shorter := (ih scannedLater).append_left (spelled (state.advance c).1)
      rw [spelled_append]
      refine shorter.trans ?_
      rw [← List.append_assoc, List.append_cons]
      exact (ScanState.advances notEscape state).spelled_sublist.append_right rest

end Spelling

section Words

variable {state : ScanState} {c : Char} {chars rest : List Char} {text word : String}

theorem length_spelled_le {tokens : List Token} (scanned : scan state chars = .ok tokens) :
    (spelled tokens).length ≤ state.text.toList.length + chars.length := by
  have shorter := (spelled_sublist scanned).length_le
  rwa [List.length_append] at shorter

/-- A character of a name begins a word or goes on with it. -/
theorem ScanState.advance_nameChar (unquoted : ∀ text, state ≠ .inQuote text)
    (nameChar : isNameChar c = true) :
    state.advance c = ([], .inWord (state.text.push c)) := by
  obtain ⟨-, notBlank, notQuote⟩ := unreserved_of_isNameChar nameChar
  have meaningless : special? c = none := special_of_isNameChar nameChar
  cases state with
  | inQuote text => exact absurd rfl (unquoted text)
  | between | inWord =>
      simp [ScanState.advance, notBlank, notQuote, meaningless]

/-- Any other character is dropped, or it is a token of its own or a dash. -/
theorem ScanState.Advances.length_le_or {next : ScanState} {tokens : List Token}
    (step : Advances c state tokens next) (unquoted : ∀ text, state ≠ .inQuote text)
    (noDash : c ≠ '-') (notNameChar : isNameChar c = false) :
    (spelled tokens).length + next.text.toList.length ≤ state.text.toList.length ∨
      ∃ token ∈ tokens, special? c = some token := by
  cases step with
  | inside text | closing text => exact absurd rfl (unquoted text)
  | opening => exact .inl (by simp [spelled])
  | blank => exact .inl (by simp [spelled_flush unquoted])
  | special _ meaning => exact .inr ⟨_, by simp, meaning⟩
  | dash _ dash => exact absurd dash noDash
  | plain _ nameChar => cases notNameChar.symm.trans nameChar

/-- Characters without a dash that are scanned as one word with nothing dropped are
characters of names. -/
theorem all_isNameChar_of_scan (scanned : scan state chars = .ok [.word word])
    (unquoted : ∀ text, state ≠ .inQuote text) (noDash : '-' ∉ chars)
    (complete : state.text.toList.length + chars.length ≤ word.toList.length) :
    chars.all isNameChar = true := by
  have spelledEq : spelled [.word word] = word.toList := by simp [spelled, Token.text]
  -- whatever drops a character leaves too few of them for the word
  induction state, chars using scan_induction with
  | nil => rfl
  | dangling state =>
      rw [scan_dangling] at scanned
      cases scanned
  | escape state c rest =>
      rw [scan_escape] at scanned
      have bound := length_spelled_le scanned
      rw [spelledEq, ScanState.text_escape, String.toList_push] at bound
      simp only [List.length_append, List.length_cons, List.length_nil] at bound complete
      omega
  | advance state c rest notEscape ih =>
      rw [List.mem_cons, not_or] at noDash
      rw [scan_advance notEscape] at scanned
      obtain ⟨later, scannedLater, wordEq⟩ := bind_eq_ok_iff.1 scanned
      have wordEq : (state.advance c).1 ++ later = [.word word] := Except.ok.inj wordEq
      cases nameChar : isNameChar c with
      | true =>
          rw [ScanState.advance_nameChar unquoted nameChar] at ih scannedLater wordEq
          rw [List.nil_append] at wordEq
          rw [wordEq] at scannedLater
          rw [List.all_cons, nameChar, Bool.true_and]
          refine ih scannedLater (by simp) noDash.2 ?_
          simp only [ScanState.text_inWord, String.toList_push, List.length_append,
            List.length_cons, List.length_nil] at complete ⊢
          omega
      | false =>
          exfalso
          have step := ScanState.advances notEscape state
          rcases step.length_le_or unquoted (Ne.symm noDash.1) nameChar with
            drops | ⟨token, listed, meaning⟩
          · have bound := length_spelled_le scannedLater
            have lengthEq := congrArg (fun tokens => (spelled tokens).length) wordEq
            rw [spelledEq, spelled_append, List.length_append] at lengthEq
            rw [List.length_cons] at complete
            omega
          · have listed : token ∈ [.word word] := wordEq ▸ List.mem_append_left _ listed
            rw [List.mem_singleton.1 listed] at meaning
            exact special_ne_word meaning

theorem scan_nameChar (unquoted : ∀ text, state ≠ .inQuote text)
    (nameChar : isNameChar c = true) :
    scan state (c :: rest) = scan (.inWord (state.text.push c)) rest := by
  have notEscape := (unreserved_of_isNameChar nameChar).1
  rw [scan_advance notEscape, ScanState.advance_nameChar unquoted nameChar]
  exact id_map _

theorem scan_nameChars (text : String) (nameChars : chars.all isNameChar = true)
    (rest : List Char) :
    scan (.inWord text) (chars ++ rest) =
      scan (.inWord (text ++ String.ofList chars)) rest := by
  induction chars generalizing text with
  | nil => simp
  | cons c chars ih =>
      rw [List.all_cons, Bool.and_eq_true] at nameChars
      rw [List.cons_append, scan_nameChar (by simp) nameChars.1, ih _ nameChars.2]
      simp [← String.append_assoc]

/-- A word ends at the end of the line, before a blank, and before a special character
other than a dash. -/
inductive EndsWord : List Char → Prop
  | nil : EndsWord []
  | blank {c : Char} {rest : List Char} (blank : isBlank c = true) : EndsWord (c :: rest)
  | special {c : Char} {rest : List Char} {token : Token}
      (meaning : special? c = some token) (noDash : c ≠ '-') : EndsWord (c :: rest)

theorem scan_inWord_of_endsWord (ends : EndsWord rest) (text : String) :
    scan (.inWord text) rest = (.word text :: ·) <$> scan .between rest := by
  cases ends with
  | nil =>
      rw [scan_nil, scan.eq_def]
      rfl
  | @blank c rest blank =>
      rw [scan_blank blank, scan_inWord (ne_of_isBlank blank rfl), if_pos blank]
  | @special c rest token meaning noDash =>
      obtain ⟨notEscape, notBlank, notQuote⟩ := unreserved_of_special meaning
      have notFlag : token ≠ .flagMarker := by
        rintro rfl
        exact noDash (eq_dash_of_special meaning)
      rw [scan_special meaning, scan_inWord notEscape, notBlank, if_neg notQuote, meaning]
      cases token <;> simp_all

/-- A name is scanned as a word of its own, wherever something ends it. -/
theorem scan_name {name : String} (valid : isValidName name = true) (ends : EndsWord rest) :
    scan .between (name.toList ++ rest) = (.word name :: ·) <$> scan .between rest := by
  rw [isValidName, Bool.and_eq_true] at valid
  obtain ⟨nonempty, nameChars⟩ := valid
  cases charsEq : name.toList with
  | nil => simp_all
  | cons c chars =>
      rw [charsEq, List.all_cons, Bool.and_eq_true] at nameChars
      have nameEq : ScanState.between.text.push c ++ String.ofList chars = name := by
        rw [← String.toList_inj, charsEq]
        simp
      rw [List.cons_append, scan_nameChar (by simp) nameChars.1,
        scan_nameChars _ nameChars.2, nameEq, scan_inWord_of_endsWord ends]

end Words

end Token

theorem tokenize_of_isValidName {name : String} (valid : isValidName name = true) :
    tokenize name = .ok [.word name] := by
  have scanned := Token.scan_name valid .nil
  rw [List.append_nil] at scanned
  rw [tokenize, scanned, Token.scan_nil]
  rfl

/-- A text without dashes is a name exactly if it is read as one word that is the text
itself. -/
theorem isValidName_iff_of_tokenize (name : String) :
    isValidName name = true ↔ '-' ∉ name.toList ∧ tokenize name = .ok [.word name] := by
  constructor
  · intro valid
    refine ⟨fun dash => ?_, tokenize_of_isValidName valid⟩
    rw [isValidName, Bool.and_eq_true, List.all_eq_true] at valid
    exact absurd (valid.2 '-' dash) (by decide)
  · rintro ⟨noDash, scanned⟩
    have nameChars := Token.all_isNameChar_of_scan scanned (by simp) noDash (by simp)
    have nonempty : name ≠ "" := by
      rintro rfl
      rw [tokenize, String.toList_empty, Token.scan_nil] at scanned
      cases scanned
    simp [isValidName, nameChars, nonempty]

end CommandShell
