import CommandShell.Proofs.Line.Position
import Mathlib.Data.List.Basic

/-!
# What scanning keeps

A line and its tokens are both sequences of marks: letters of words, special characters, empty
words, and ends of words.  The marks of a token say what it is made of, and `marksAt` says which
marks a position of the line has, from nothing but the characters before it and at it.  Scanning
keeps the sequence (`marks_of_scan`): no mark is lost, added or moved, so the tokens are those
that the positions call for.
-/

namespace CommandShell

/-- What a line and its tokens are made of. -/
inductive Mark where
  /-- A character of a word. -/
  | letter (c : Char)
  /-- A special token. -/
  | special (token : Token)
  /-- A word without characters. -/
  | emptyWord
  /-- The end of a word. -/
  | wordEnd
  deriving DecidableEq, Repr

namespace Mark

def chars : Mark → List Char
  | letter c => [c]
  | special token => token.text.toList
  | emptyWord | wordEnd => []

def special? : Mark → Option Token
  | special token => some token
  | _ => none

end Mark

namespace Token

def letters (text : String) : List Mark := text.toList.map .letter

def marks : Token → List Mark
  | .word text => (if text = "" then [.emptyWord] else letters text) ++ [.wordEnd]
  | token => [.special token]

theorem chars_marks (token : Token) : token.marks.flatMap Mark.chars = token.text.toList := by
  cases token with
  | word text =>
      by_cases empty : text = ""
      · simp [marks, Token.text, Mark.chars, empty]
      · simp [marks, Token.text, letters, Mark.chars, empty, List.flatMap_map]
  | _ => simp [marks, Mark.chars]

theorem special_marks (token : Token) :
    token.marks.filterMap Mark.special? = if token.isWord then [] else [token] := by
  cases token with
  | word text =>
      by_cases empty : text = ""
      · simp [marks, isWord, Mark.special?, empty]
      · simp [marks, isWord, letters, Mark.special?, empty]
  | _ => rfl

theorem count_marks (token : Token) :
    token.marks.count .emptyWord = if token = .word "" then 1 else 0 := by
  cases token with
  | word text =>
      by_cases empty : text = ""
      · simp [marks, empty]
      · simp [marks, letters, empty, List.count_eq_zero]
  | _ => rfl

theorem chars_flatMap_marks (tokens : List Token) :
    (tokens.flatMap marks).flatMap Mark.chars =
      (String.join (tokens.map text)).toList := by
  induction tokens with
  | nil => rfl
  | cons token tokens ih =>
      rw [List.flatMap_cons, List.flatMap_append, ih, chars_marks]
      simp

theorem special_flatMap_marks (tokens : List Token) :
    (tokens.flatMap marks).filterMap Mark.special? = tokens.filter (!·.isWord) := by
  induction tokens with
  | nil => rfl
  | cons token tokens ih =>
      rw [List.flatMap_cons, List.filterMap_append, ih, special_marks]
      cases isWord : token.isWord <;> simp [isWord]

theorem count_flatMap_marks (tokens : List Token) :
    (tokens.flatMap marks).count .emptyWord = tokens.count (.word "") := by
  induction tokens with
  | nil => rfl
  | cons token tokens ih =>
      rw [List.flatMap_cons, List.count_append, ih, count_marks, List.count_cons,
        Nat.add_comm]
      simp

end Token

namespace Line

section Marks

variable (chars : List Char) (i : Nat)

/-- Whether the character at a position is dropped: a backslash that escapes another character,
a quote, or a blank outside quotes, and not escaped itself. -/
def Dropped : Prop :=
  ¬ Escaped chars i ∧
    (chars[i]? = some '\\' ∨ chars[i]? = some '"' ∨
      (¬ Quoted chars i ∧ ∃ c ∈ chars[i]?, isBlank c = true))

instance : Decidable (Dropped chars i) := inferInstanceAs (Decidable (_ ∧ _))

/-- The characters that are not dropped. -/
def kept : List Char :=
  (List.range chars.length).filterMap fun i => if Dropped chars i then none else chars[i]?

/-- Whether quotes open at a position and close right behind it, with no word open before. -/
def EmptyPair : Prop :=
  ¬ Quoted chars i ∧ ¬ WordOpen chars i ∧ IsQuote chars i ∧ IsQuote chars (i + 1)

instance : Decidable (EmptyPair chars i) := inferInstanceAs (Decidable (_ ∧ _))

/-- Whether a word ends at a position: quotes close there, or a word outside quotes is open and
there is a blank, a special token or the end of the line. -/
def WordEnds : Prop :=
  (Quoted chars i ∧ IsQuote chars i) ∨
    (¬ Quoted chars i ∧ WordOpen chars i ∧ ¬ Escaped chars i ∧
      ((∀ c ∈ chars[i]?, isBlank c = true) ∨ (specialAt? chars i).isSome = true))

instance : Decidable (WordEnds chars i) := inferInstanceAs (Decidable (_ ∨ _))

/-- What the character at a position adds to the tokens, if it adds anything. -/
def inkAt? : Option Mark :=
  if EmptyPair chars i then some .emptyWord
  else if Dropped chars i then none
  else (specialAt? chars i).map .special <|> chars[i]?.map .letter

/-- The marks of a position. -/
def marksAt : List Mark :=
  (if WordEnds chars i then [.wordEnd] else []) ++ (inkAt? chars i).toList

/-- The marks of the positions from the given one on, the end of the line included. -/
def marksFrom : List Mark := (List.range' i (chars.length + 1 - i)).flatMap (marksAt chars)

end Marks

section Places

variable {chars : List Char} {i : Nat} {c : Char} {token : Token}

theorem marksAt_escaped (escaped : Escaped chars i) (present : chars[i]? = some c) :
    marksAt chars i = [.letter c] := by
  simp [marksAt, WordEnds, inkAt?, EmptyPair, Dropped, IsQuote, specialAt?, escaped, present]

theorem marksAt_backslash (unescaped : ¬ Escaped chars i) (present : chars[i]? = some '\\') :
    marksAt chars i = [] := by
  have meaningless : Token.special? '\\' = none := rfl
  have notBlank : isBlank '\\' = false := rfl
  simp [marksAt, WordEnds, inkAt?, EmptyPair, Dropped, IsQuote, specialAt?, unescaped, present,
    meaningless, notBlank]

theorem marksAt_inside (unescaped : ¬ Escaped chars i) (quoted : Quoted chars i)
    (present : chars[i]? = some c) (notEscape : c ≠ '\\') (noQuote : c ≠ '"') :
    marksAt chars i = [.letter c] := by
  simp [marksAt, WordEnds, inkAt?, EmptyPair, Dropped, IsQuote, specialAt?, unescaped, quoted,
    present, notEscape, noQuote]

theorem marksAt_closing (quote : IsQuote chars i) (quoted : Quoted chars i) :
    marksAt chars i = [.wordEnd] := by
  simp [marksAt, WordEnds, inkAt?, EmptyPair, Dropped, quote, quoted, quote.1, quote.2]

theorem marksAt_opening (quote : IsQuote chars i) (unquoted : ¬ Quoted chars i) :
    marksAt chars i =
      if ¬ WordOpen chars i ∧ IsQuote chars (i + 1) then [.emptyWord] else [] := by
  have meaningless : Token.special? '"' = none := rfl
  have notBlank : isBlank '"' = false := rfl
  have noEnd : ¬ WordEnds chars i := by
    simp [WordEnds, specialAt?, unquoted, quote.1, quote.2, meaningless, notBlank]
  rw [marksAt, if_neg noEnd, List.nil_append, inkAt?]
  by_cases pair : ¬ WordOpen chars i ∧ IsQuote chars (i + 1)
  · simp [EmptyPair, unquoted, quote, pair]
  · have noPair : ¬ EmptyPair chars i := fun empty => pair ⟨empty.2.1, empty.2.2.2⟩
    have dropped : Dropped chars i := ⟨quote.2, .inr (.inl quote.1)⟩
    rw [if_neg noPair, if_pos dropped, if_neg pair]
    rfl

theorem marksAt_blank (unescaped : ¬ Escaped chars i) (unquoted : ¬ Quoted chars i)
    (present : chars[i]? = some c) (blank : isBlank c = true) :
    marksAt chars i = if WordOpen chars i then [.wordEnd] else [] := by
  have noQuote : c ≠ '"' := Token.ne_of_isBlank blank rfl
  simp [marksAt, WordEnds, inkAt?, EmptyPair, Dropped, IsQuote, unescaped, unquoted, present,
    blank, noQuote]

theorem marksAt_special (special : specialAt? chars i = some token) :
    marksAt chars i =
      (if WordOpen chars i then [.wordEnd] else []) ++ [.special token] := by
  obtain ⟨unescaped, unquoted, -, c, present, meaning⟩ := specialAt?_eq_some_iff.1 special
  obtain ⟨notEscape, notBlank, noQuote⟩ := Token.unreserved_of_special meaning
  simp [marksAt, WordEnds, inkAt?, EmptyPair, Dropped, IsQuote, special, unescaped, unquoted,
    present, notEscape, notBlank, noQuote]

theorem marksAt_plain (unescaped : ¬ Escaped chars i) (unquoted : ¬ Quoted chars i)
    (present : chars[i]? = some c) (plain : isNameChar c = true ∨ (c = '-' ∧ WordOpen chars i)) :
    marksAt chars i = [.letter c] := by
  have special : specialAt? chars i = none := by
    rcases plain with nameChar | ⟨rfl, wordOpen⟩
    · simp [specialAt?, present, Token.special_of_isNameChar nameChar]
    · simp [specialAt?, present, wordOpen]
  obtain ⟨notEscape, notBlank, noQuote⟩ : c ≠ '\\' ∧ isBlank c = false ∧ c ≠ '"' := by
    rcases plain with nameChar | ⟨rfl, -⟩
    · exact Token.unreserved_of_isNameChar nameChar
    · decide
  simp [marksAt, WordEnds, inkAt?, EmptyPair, Dropped, IsQuote, special, unescaped, unquoted,
    present, notEscape, notBlank, noQuote]

theorem marksAt_length (unescaped : ¬ Escaped chars chars.length)
    (unquoted : ¬ Quoted chars chars.length) :
    marksAt chars chars.length = if WordOpen chars chars.length then [.wordEnd] else [] := by
  simp [marksAt, WordEnds, inkAt?, EmptyPair, Dropped, IsQuote, specialAt?, unescaped, unquoted]

end Places

section Scanner

open Token

variable {chars : List Char} {i : Nat} {c : Char} {state : ScanState} {tokens : List Token}

theorem marksFrom_zero (chars : List Char) :
    marksFrom chars 0 = (List.range (chars.length + 1)).flatMap (marksAt chars) := by
  rw [marksFrom, Nat.sub_zero, List.range_eq_range']

theorem marksFrom_eq_append (within : i ≤ chars.length) :
    marksFrom chars i = marksAt chars i ++ marksFrom chars (i + 1) := by
  have count : chars.length + 1 - i = (chars.length - i) + 1 := by omega
  have countNext : chars.length + 1 - (i + 1) = chars.length - i := by omega
  rw [marksFrom, marksFrom, count, countNext, List.range'_succ, List.flatMap_cons]

/-- The marks before a position that no token contains yet. -/
def pending (chars : List Char) (i : Nat) : ScanState → List Mark
  | .between => []
  | .inWord text => letters text
  | .inQuote text => if text = "" ∧ IsQuote chars i then [.emptyWord] else letters text

theorem letters_push (text : String) (c : Char) :
    letters (text.push c) = letters text ++ [.letter c] := by
  simp [letters]

theorem marks_of_special {token : Token} (meaning : special? c = some token) :
    marks token = [.special token] := by
  cases token with
  | word text => exact absurd meaning special_ne_word
  | _ => rfl

theorem marks_flush (agrees : Agrees chars i state) (unquoted : ∀ text, state ≠ .inQuote text) :
    pending chars i state ++ (if WordOpen chars i then [.wordEnd] else []) =
      state.flush.flatMap marks := by
  have standing := agrees.standing
  cases state with
  | between => simp [pending, ScanState.flush, standing.2]
  | inWord text => simp [pending, ScanState.flush, marks, standing.2]
  | inQuote text => exact absurd rfl (unquoted text)

theorem marks_advance (agrees : Agrees chars i state) (present : chars[i]? = some c)
    (notEscape : c ≠ '\\') :
    pending chars i state ++ marksAt chars i =
      (state.advance c).1.flatMap marks ++ pending chars (i + 1) (state.advance c).2 := by
  have quoteIff := agrees.isQuote_iff present
  have unescaped := agrees.unescaped
  have step := ScanState.advances notEscape state
  generalize (state.advance c).1 = tokens, (state.advance c).2 = next at step
  cases step with
  | inside text noQuote =>
      rw [marksAt_inside unescaped agrees.standing present notEscape noQuote]
      simp [pending, quoteIff, noQuote, String.push_ne_empty, letters_push]
  | closing text quote =>
      rw [marksAt_closing (quoteIff.2 quote) agrees.standing]
      simp [pending, quoteIff, quote, marks]
  | opening unquoted quote =>
      have outside := agrees.not_quoted unquoted
      rw [marksAt_opening (quoteIff.2 quote) outside]
      cases state with
      | between => simp [pending, agrees.standing.2, letters]
      | inWord text => simp [pending, agrees.standing.2]
      | inQuote text => exact absurd rfl (unquoted text)
  | blank unquoted blank =>
      have outside := agrees.not_quoted unquoted
      rw [marksAt_blank unescaped outside present blank, marks_flush agrees unquoted]
      simp [pending]
  | special unquoted meaning noDash =>
      have outside := agrees.not_quoted unquoted
      have noDashWord : ¬ (chars[i]? = some '-' ∧ WordOpen chars i) := by
        rintro ⟨dash, wordOpen⟩
        rw [present, Option.some_inj] at dash
        obtain ⟨text, inWord⟩ := (agrees.wordOpen_iff outside).1 wordOpen
        exact noDash dash text inWord
      have special := specialAt?_eq_some_iff.2 ⟨unescaped, outside, noDashWord, c, present, meaning⟩
      rw [marksAt_special special, ← List.append_assoc, marks_flush agrees unquoted]
      simp [pending, marks_of_special meaning]
  | dash text dash =>
      obtain ⟨outside, wordOpen, -⟩ := agrees.standing
      rw [marksAt_plain unescaped outside present (.inr ⟨dash, wordOpen⟩)]
      simp [pending, letters_push]
  | plain unquoted nameChar =>
      have outside := agrees.not_quoted unquoted
      rw [marksAt_plain unescaped outside present (.inl nameChar)]
      cases state with
      | between => simp [pending, letters]
      | inWord text => simp [pending, letters_push]
      | inQuote text => exact absurd rfl (unquoted text)

theorem marks_escape (agrees : Agrees chars i state) (backslash : chars[i]? = some '\\')
    (present : chars[i + 1]? = some c) :
    pending chars i state ++ marksAt chars i ++ marksAt chars (i + 1) =
      pending chars (i + 2) (state.escape c) := by
  have escaped : Escaped chars (i + 1) := (escaped_succ backslash).2 ⟨rfl, agrees.unescaped⟩
  have noQuote : ¬ IsQuote chars i := by simp [IsQuote, backslash]
  rw [marksAt_backslash agrees.unescaped backslash, marksAt_escaped escaped present]
  cases state with
  | between => simp [pending, ScanState.escape, letters]
  | inWord text => simp [pending, ScanState.escape, letters_push]
  | inQuote text => simp [pending, ScanState.escape, noQuote, String.push_ne_empty, letters_push]

/-- The marks of the tokens are those of the positions, one after the other. -/
theorem marks_of_scan (scanned : scan .between chars = .ok tokens) :
    tokens.flatMap marks = marksFrom chars 0 := by
  -- a word is a token only where it ends, so its marks are pending up to there
  have follows : ∀ tokens, scan .between (chars.drop 0) = .ok tokens →
      tokens.flatMap marks = pending chars 0 .between ++ marksFrom chars 0 := by
    refine induction_on_positions chars
      (motive := fun i state => ∀ tokens, scan state (chars.drop i) = .ok tokens →
        tokens.flatMap marks = pending chars i state ++ marksFrom chars i)
      ?finish ?dangling ?escape ?advance
    case finish =>
      intro state agrees tokens scanned
      have last : marksFrom chars chars.length = marksAt chars chars.length := by
        simp [marksFrom]
      rw [List.drop_length] at scanned
      rw [last]
      cases state with
      | between | inWord =>
          cases scanned
          rw [marksAt_length agrees.unescaped agrees.standing.1]
          exact (marks_flush agrees nofun).symm
      | inQuote => cases scanned
    case dangling =>
      intro i state agrees dropped tokens scanned
      rw [dropped, scan_dangling] at scanned
      cases scanned
    case escape =>
      intro i state c agrees dropped ih tokens scanned
      have droppedNext := drop_succ_of_drop dropped
      have present := getElem?_of_drop droppedNext
      have within : i + 1 < chars.length := (List.getElem?_eq_some_iff.1 present).1
      rw [dropped, scan_escape] at scanned
      rw [ih tokens scanned, marksFrom_eq_append (by omega : i ≤ chars.length),
        marksFrom_eq_append (by omega : i + 1 ≤ chars.length),
        ← marks_escape agrees (getElem?_of_drop dropped) present]
      simp only [List.append_assoc]
    case advance =>
      intro i state c agrees notEscape dropped ih tokens scanned
      have present := getElem?_of_drop dropped
      have within : i < chars.length := (List.getElem?_eq_some_iff.1 present).1
      rw [dropped, scan_advance notEscape] at scanned
      obtain ⟨later, scannedLater, ⟨⟩⟩ := bind_eq_ok_iff.1 scanned
      rw [List.flatMap_append, ih later scannedLater,
        marksFrom_eq_append (by omega : i ≤ chars.length), ← List.append_assoc,
        ← List.append_assoc, marks_advance agrees present notEscape]
  exact follows tokens scanned

end Scanner

section Projections

variable {chars : List Char} {i : Nat}

theorem dropped_of_emptyPair (pair : EmptyPair chars i) : Dropped chars i := by
  obtain ⟨-, -, ⟨present, unescaped⟩, -⟩ := pair
  exact ⟨unescaped, .inr (.inl present)⟩

theorem specialAt?_of_dropped (dropped : Dropped chars i) : specialAt? chars i = none := by
  rw [Option.eq_none_iff_forall_ne_some]
  intro token special
  obtain ⟨-, unquoted, -, c, present, meaning⟩ := specialAt?_eq_some_iff.1 special
  obtain ⟨notEscape, notBlank, noQuote⟩ := Token.unreserved_of_special meaning
  obtain ⟨-, dropped⟩ := dropped
  simp [present, notEscape, noQuote, notBlank] at dropped

theorem inkAt?_of_dropped (dropped : Dropped chars i) :
    inkAt? chars i = if EmptyPair chars i then some .emptyWord else none := by
  rw [inkAt?, if_pos dropped]

theorem inkAt?_of_not_dropped (remains : ¬ Dropped chars i) :
    inkAt? chars i =
      ((specialAt? chars i).map .special <|> chars[i]?.map .letter) := by
  have noPair : ¬ EmptyPair chars i := fun pair => remains (dropped_of_emptyPair pair)
  rw [inkAt?, if_neg noPair, if_neg remains]

theorem chars_marksAt (chars : List Char) (i : Nat) :
    (marksAt chars i).flatMap Mark.chars =
      (if Dropped chars i then none else chars[i]?).toList := by
  have ends : (if WordEnds chars i then [Mark.wordEnd] else []).flatMap Mark.chars = [] := by
    split <;> rfl
  rw [marksAt, List.flatMap_append, ends, List.nil_append]
  by_cases dropped : Dropped chars i
  · rw [inkAt?_of_dropped dropped, if_pos dropped]
    split <;> rfl
  · rw [inkAt?_of_not_dropped dropped, if_neg dropped]
    cases special : specialAt? chars i with
    | none => cases chars[i]? <;> rfl
    | some token =>
        obtain ⟨-, -, -, c, present, meaning⟩ := specialAt?_eq_some_iff.1 special
        simp [Mark.chars, present, Token.text_of_special meaning]

theorem special_marksAt (chars : List Char) (i : Nat) :
    (marksAt chars i).filterMap Mark.special? = (specialAt? chars i).toList := by
  have ends : (if WordEnds chars i then [Mark.wordEnd] else []).filterMap Mark.special? = [] := by
    split <;> rfl
  rw [marksAt, List.filterMap_append, ends, List.nil_append]
  by_cases dropped : Dropped chars i
  · rw [inkAt?_of_dropped dropped, specialAt?_of_dropped dropped]
    split <;> rfl
  · rw [inkAt?_of_not_dropped dropped]
    cases specialAt? chars i with
    | none => cases chars[i]? <;> rfl
    | some token => rfl

theorem count_marksAt (chars : List Char) (i : Nat) :
    (marksAt chars i).count .emptyWord = if EmptyPair chars i then 1 else 0 := by
  have ends : (if WordEnds chars i then [Mark.wordEnd] else []).count .emptyWord = 0 := by
    split <;> rfl
  rw [marksAt, List.count_append, ends, Nat.zero_add]
  by_cases dropped : Dropped chars i
  · rw [inkAt?_of_dropped dropped]
    split <;> rfl
  · have noPair : ¬ EmptyPair chars i := fun pair => dropped (dropped_of_emptyPair pair)
    rw [inkAt?_of_not_dropped dropped, if_neg noPair]
    cases specialAt? chars i with
    | none => cases chars[i]? <;> rfl
    | some token => rfl

theorem chars_marksFrom (chars : List Char) :
    (marksFrom chars 0).flatMap Mark.chars = kept chars := by
  rw [marksFrom_zero, List.flatMap_assoc, List.range_succ, List.flatMap_append, kept,
    List.filterMap_eq_flatMap_toList]
  simp [chars_marksAt]

theorem special_marksFrom (chars : List Char) :
    (marksFrom chars 0).filterMap Mark.special? =
      (List.range chars.length).filterMap (specialAt? chars) := by
  have nothing : specialAt? chars chars.length = none := by simp [specialAt?]
  rw [marksFrom_zero, List.filterMap_flatMap, List.range_succ, List.flatMap_append]
  simp only [special_marksAt, List.flatMap_singleton, nothing, Option.toList_none,
    List.append_nil]
  exact (List.filterMap_eq_flatMap_toList _ _).symm

theorem count_flatMap_marksAt (chars : List Char) (positions : List Nat) :
    (positions.flatMap (marksAt chars)).count .emptyWord =
      positions.countP fun i => EmptyPair chars i := by
  induction positions with
  | nil => rfl
  | cons i positions ih =>
      rw [List.flatMap_cons, List.count_append, ih, count_marksAt, List.countP_cons,
        Nat.add_comm]
      simp

theorem count_marksFrom (chars : List Char) :
    (marksFrom chars 0).count .emptyWord =
      (List.range chars.length).countP fun i => EmptyPair chars i := by
  have noPair : ¬ EmptyPair chars chars.length := by simp [EmptyPair, IsQuote]
  rw [marksFrom_zero, count_flatMap_marksAt, List.range_succ, List.countP_append]
  simp [noPair]

end Projections

/-- The tokens of a line are what the positions of the line make of its characters. -/
structure Conserves (chars : List Char) (tokens : List Token) : Prop where
  displayed : (String.join (tokens.map Token.text)).toList = kept chars
  specials : tokens.filter (!·.isWord) = (List.range chars.length).filterMap (specialAt? chars)
  emptyWords : tokens.count (.word "") =
    (List.range chars.length).countP fun i => EmptyPair chars i
  /-- All of it is in the order of the positions, and no two words are joined or torn apart. -/
  inPlace : tokens.flatMap Token.marks =
    (List.range (chars.length + 1)).flatMap (marksAt chars)

end Line

/-- Scanning loses no character but those that it has to drop, adds none and moves none, and it
makes special tokens and empty words of nothing but what stands for them. -/
theorem conserves_of_tokenize {line : String} {tokens : List Token}
    (scanned : tokenize line = .ok tokens) : Line.Conserves line.toList tokens := by
  have marksEq : tokens.flatMap Token.marks = Line.marksFrom line.toList 0 :=
    Line.marks_of_scan scanned
  constructor
  · rw [← Token.chars_flatMap_marks, marksEq, Line.chars_marksFrom]
  · rw [← Token.special_flatMap_marks, marksEq, Line.special_marksFrom]
  · rw [← Token.count_flatMap_marks, marksEq, Line.count_marksFrom]
  · rw [marksEq, Line.marksFrom_zero]

def knotted : String := "x-\"y \\\" z\"-\\-w= ab-c\\ d\t\"\"-a\"\";--"

def knottedTokens : List Token :=
  [.word "x-y \" z", .flagMarker, .word "-w", .assign, .word "ab-c d", .word "", .flagMarker,
    .word "a", .macroMarker, .flagMarker, .flagMarker]

/-- Quotes go on with a word and end it, dashes stand in words and before them, and of two
pairs of quotes with nothing between them only one is a word. -/
theorem conserves_knotted :
    tokenize knotted = .ok knottedTokens ∧ Line.Conserves knotted.toList knottedTokens ∧
      String.ofList (Line.kept knotted.toList) = "x-y \" z--w=ab-c d-a;--" ∧
      (List.range knotted.toList.length).countP (fun i => Line.EmptyPair knotted.toList i) = 1 := by
  have scanned : tokenize knotted = .ok knottedTokens := by rfl
  have conserves := conserves_of_tokenize scanned
  refine ⟨scanned, conserves, ?_, ?_⟩
  · rw [← conserves.displayed]
    decide
  · rw [← conserves.emptyWords]
    decide

end CommandShell
