import Mathlib.Data.List.Induction
import Mathlib.Data.Nat.Digits.Defs
import CommandShell.Proofs.Session.Reading

/-!
# Integers in lines

A raw text is an integer if it is a numeral, which is an optional sign and at least one decimal
digit, and if the number that the numeral denotes by its places has 64 bits.  All other texts stand
for themselves.  So the decimal form of an integer can be typed as it is, although a negative one
is then two tokens, and a value with a dot in it is never an integer.
-/

namespace CommandShell

namespace Text

/-- The sign in front of a numeral, if there is one. -/
inductive Sign where
  | absent
  | plus
  | minus
  deriving DecidableEq, Repr

namespace Sign

def chars : Sign → List Char
  | absent => []
  | plus => ['+']
  | minus => ['-']

def apply (size : Nat) : Sign → Int
  | minus => -size
  | _ => size

end Sign

/-- The character of a decimal digit. -/
def digitChar (digit : Fin 10) : Char := Nat.digitChar digit

/-- The number that digits denote, each weighted by the power of ten of its place. -/
def placeValue (digits : List (Fin 10)) : Nat := Nat.ofDigits 10 (digits.reverse.map Fin.val)

/-- An integer as it is typed: the sign, the leading digit and the digits behind it. -/
structure Numeral where
  sign : Sign := .absent
  first : Fin 10
  more : List (Fin 10) := []
  deriving DecidableEq, Repr

namespace Numeral

/-- The digits of a numeral, the leading one first. -/
def digits (numeral : Numeral) : List (Fin 10) := numeral.first :: numeral.more

def text (numeral : Numeral) : String :=
  String.ofList (numeral.sign.chars ++ numeral.digits.map digitChar)

/-- The number that a numeral denotes. -/
def value (numeral : Numeral) : Int := numeral.sign.apply (placeValue numeral.digits)

end Numeral

section Digits

variable {chars : List Char} {digits : List (Fin 10)} {number : Int64}

theorem exists_digit {c : Char} (isDigit : c.isDigit = true) :
    ∃ digit, digitChar digit = c := by
  have bounds : '0'.toNat ≤ c.toNat ∧ c.toNat ≤ '9'.toNat := by
    simpa [Char.isDigit, UInt32.le_iff_toNat_le] using isDigit
  have zero : '0'.toNat = 48 := rfl
  have nine : '9'.toNat = 57 := rfl
  have small : c.toNat - 48 < 10 := by omega
  refine ⟨⟨c.toNat - 48, small⟩, Char.toNat_inj.1 ?_⟩
  rw [digitChar, Nat.toNat_digitChar_of_lt_ten small]
  omega

theorem isDigit_digitChar (digit : Fin 10) : (digitChar digit).isDigit = true := by
  rw [digitChar, Nat.isDigit_digitChar, decide_eq_true digit.isLt]

theorem all_isDigit_iff : chars.all Char.isDigit = true ↔
    ∃ digits : List (Fin 10), digits.map digitChar = chars := by
  constructor
  · intro allDigits
    induction chars with
    | nil => exact ⟨[], rfl⟩
    | cons c chars ih =>
        rw [List.all_cons, Bool.and_eq_true] at allDigits
        obtain ⟨digit, rfl⟩ := exists_digit allDigits.1
        obtain ⟨digits, rfl⟩ := ih allDigits.2
        exact ⟨digit :: digits, rfl⟩
  · rintro ⟨digits, rfl⟩
    simp only [List.all_map, List.all_eq_true, Function.comp_apply, isDigit_digitChar, implies_true]

/-- Reading digits from the left adds them up by their places. -/
theorem digitsValue_map (digits : List (Fin 10)) :
    digitsValue (digits.map digitChar) = placeValue digits := by
  induction digits using List.reverseRecOn with
  | nil => rfl
  | append_singleton digits last ih =>
      have lastValue : (digitChar last).toNat - '0'.toNat = last := by
        have zero : '0'.toNat = 48 := rfl
        rw [digitChar, Nat.toNat_digitChar_of_lt_ten last.isLt]
        omega
      rw [digitsValue, placeValue] at ih ⊢
      rw [List.map_append, List.foldl_append, ih, List.reverse_append]
      simp only [List.map_cons, List.map_nil, List.foldl_cons, List.foldl_nil, lastValue,
        List.reverse_singleton, List.singleton_append, Nat.ofDigits_cons]
      omega

theorem readDigits_eq_some_iff {negative : Bool} :
    readDigits negative chars = some number ↔
      ∃ first more, (first :: more).map digitChar = chars ∧
        (if negative then -(placeValue (first :: more) : Int) else placeValue (first :: more)) =
          number.toInt := by
  rw [readDigits]
  constructor
  · intro read
    split at read
    · cases read
    · next typed =>
        rw [Bool.or_eq_true, not_or, Bool.not_eq_true', Bool.not_eq_false] at typed
        obtain ⟨nonempty, allDigits⟩ := typed
        obtain ⟨digits, rfl⟩ := all_isDigit_iff.1 allDigits
        rw [toInt64?_eq_some_iff, digitsValue_map] at read
        cases digits with
        | nil => exact absurd rfl nonempty
        | cons first more => exact ⟨first, more, rfl, read.symm⟩
  · rintro ⟨first, more, rfl, valueEq⟩
    have nonempty : ((first :: more).map digitChar).isEmpty = false := rfl
    have allDigits := all_isDigit_iff.2 ⟨first :: more, rfl⟩
    rw [nonempty, allDigits, digitsValue_map]
    exact toInt64?_eq_some_iff.2 valueEq.symm

end Digits

section Numerals

variable {raw : String} {number : Int64}

theorem toList_text (numeral : Numeral) :
    numeral.text.toList = numeral.sign.chars ++ numeral.digits.map digitChar :=
  String.toList_ofList

/-- The reader takes exactly the numerals, and it yields the number that they denote. -/
theorem readInteger?_eq_some_iff : readInteger? raw = some number ↔
    ∃ numeral : Numeral, numeral.text = raw ∧ numeral.value = number.toInt := by
  constructor
  · intro read
    unfold readInteger? at read
    have rawEq {chars : List Char} (charsEq : raw.toList = chars) : String.ofList chars = raw := by
      rw [← charsEq, String.ofList_toList]
    split at read
    · next charsEq =>
        obtain ⟨first, more, rfl, valueEq⟩ := readDigits_eq_some_iff.1 read
        exact ⟨⟨.minus, first, more⟩, rawEq charsEq, valueEq⟩
    · next charsEq =>
        obtain ⟨first, more, rfl, valueEq⟩ := readDigits_eq_some_iff.1 read
        exact ⟨⟨.plus, first, more⟩, rawEq charsEq, valueEq⟩
    · obtain ⟨first, more, charsEq, valueEq⟩ := readDigits_eq_some_iff.1 read
      exact ⟨⟨.absent, first, more⟩, rawEq charsEq.symm, valueEq⟩
  · rintro ⟨⟨sign, first, more⟩, rfl, valueEq⟩
    have digits {negative : Bool} (same : (if negative then -(placeValue (first :: more) : Int)
        else placeValue (first :: more)) = number.toInt) :
        readDigits negative ((first :: more).map digitChar) = some number :=
      readDigits_eq_some_iff.2 ⟨first, more, rfl, same⟩
    cases sign with
    | absent =>
        have allDigits := all_isDigit_iff.2 ⟨first :: more, rfl⟩
        exact (readInteger?_of_digits allDigits).trans (digits valueEq)
    | plus | minus =>
        rw [readInteger?, toList_text]
        exact digits valueEq

theorem exists_toInt_eq_iff {value : Int} :
    (∃ number : Int64, number.toInt = value) ↔ -2 ^ 63 ≤ value ∧ value ≤ 2 ^ 63 - 1 := by
  have least : Int64.minValue.toInt = -2 ^ 63 := rfl
  have greatest : Int64.maxValue.toInt = 2 ^ 63 - 1 := rfl
  constructor
  · rintro ⟨number, rfl⟩
    rw [← least, ← greatest]
    exact ⟨Int64.le_toInt _, Int64.toInt_le _⟩
  · rintro ⟨lower, upper⟩
    rw [← least] at lower
    rw [← greatest] at upper
    exact ⟨Int64.ofIntLE value lower upper, Int64.toInt_ofIntLE⟩

end Numerals

end Text

namespace Value

open Text (Numeral)

/-- A raw text stands for an integer if it is a numeral of one with 64 bits, and otherwise for
itself. -/
structure Recognizes (raw : String) : Prop where
  integer_iff : ∀ number, ofRaw raw = .integer number ↔
    ∃ numeral : Numeral, numeral.text = raw ∧ numeral.value = number.toInt
  isInteger_iff : (∃ number, ofRaw raw = .integer number) ↔
    ∃ numeral : Numeral, numeral.text = raw ∧
      -2 ^ 63 ≤ numeral.value ∧ numeral.value ≤ 2 ^ 63 - 1
  otherwise : (¬ ∃ number, ofRaw raw = .integer number) → ofRaw raw = .plainText raw

theorem ofRaw_eq_integer_iff {raw : String} {number : Int64} :
    ofRaw raw = .integer number ↔ Text.readInteger? raw = some number := by
  rw [ofRaw]
  cases Text.readInteger? raw <;> simp [plainText]

theorem recognizes (raw : String) : Recognizes raw where
  integer_iff number := ofRaw_eq_integer_iff.trans Text.readInteger?_eq_some_iff
  isInteger_iff := by
    simp only [ofRaw_eq_integer_iff, Text.readInteger?_eq_some_iff, ← Text.exists_toInt_eq_iff]
    constructor
    · rintro ⟨number, numeral, textEq, valueEq⟩
      exact ⟨numeral, textEq, number, valueEq.symm⟩
    · rintro ⟨numeral, textEq, number, valueEq⟩
      exact ⟨number, numeral, textEq, valueEq.symm⟩
  otherwise none := by
    rw [ofRaw]
    cases read : Text.readInteger? raw with
    | none => rfl
    | some number => exact absurd ⟨number, ofRaw_eq_integer_iff.2 read⟩ none

end Value

section Lines

open CommandShell.Bundle (ValueForm ItemForm readValue)

variable {number : Int64} {text : String}

/-- How a text is read that is typed as the value of an argument and means an integer. -/
structure ReadsAs (number : Int64) (text : String) (tokens : List Token) : Prop where
  tokenized : tokenize text = .ok tokens
  value : ∀ previous name rest, rest.head? ≠ some .moduleDelimiter → ∃ shorter,
    readValue previous name (tokens ++ rest) = .ok (.integer number, ⟨rest, shorter⟩)
  line : ∀ (session : Session) (command : CommandName) (argument : String), command.WellFormed →
    session.read (Token.writeAll command.tokens ++ " " ++ Token.quoted argument ++ "=" ++ text) =
      (do
        let (owner, command) ← session.registry.resolve command
        let bundle := Bundle.withArgument {} argument (.integer number)
        checkRules command.rules bundle
        return some { owner, command, bundle })

theorem readsAs_of_denotes (form : ValueForm)
    (scanned : Token.scan .between text.toList = .ok form.tokens)
    (denotes : ∀ previous, form.denote? previous = some (.integer number)) :
    ReadsAs number text form.tokens where
  tokenized := scanned
  value previous name rest ends := Bundle.readValue_form (denotes previous) ends
  line session command argument wellFormed := by
    have items : [ItemForm.keyed argument form []].flatMap ItemForm.tokens =
        .word argument :: .assign :: form.tokens := by
      simp [ItemForm.tokens, Bundle.separated]
    refine session.read_items [.keyed argument form []] ?_ wellFormed ?_
    · simp only [tokenize, String.toList_append, List.append_assoc, Token.scan_writeAll]
      change (command.tokens ++ ·) <$> Token.scan .between
        (' ' :: ((Token.quoted argument).toList ++ '=' :: text.toList)) = _
      rw [Token.scan_blank (by decide), Token.scan_quoted,
        Token.scan_special Token.special_equals, scanned, items]
      rfl
    · have added : ItemForm.add? session.previous {} (.keyed argument form []) =
          some (Bundle.withArgument {} argument (.integer number)) :=
        Bundle.add?_keyed_eq_some_iff.2 ⟨.integer number, [], denotes _, rfl, rfl, rfl⟩
      rw [List.foldlM_cons, added]
      rfl

theorem isNameChar_of_isDigit {c : Char} (isDigit : c.isDigit = true) : isNameChar c = true := by
  have nameChar : ∀ digit, isNameChar (Text.digitChar digit) = true := by decide
  obtain ⟨digit, rfl⟩ := Text.exists_digit isDigit
  exact nameChar digit

theorem isValidName_toString (size : Nat) : isValidName (toString size) = true := by
  have digits := List.all_eq_true.1 (Text.all_isDigit_toDigits size)
  rw [Nat.toString_eq_ofList_toDigits, isValidName, String.toList_ofList, Bool.and_eq_true]
  constructor
  · simp [Nat.toDigits_ne_nil]
  · exact List.all_eq_true.2 fun c member => isNameChar_of_isDigit (digits c member)

theorem scan_toString (size : Nat) :
    Token.scan .between (toString size).toList = .ok [.word (toString size)] :=
  tokenize_of_isValidName (isValidName_toString size)

/-- The decimal form of an integer is that of its size, behind a dash if it is negative. -/
theorem display_integer (number : Int64) : (Value.integer number).display =
    if number < 0 then "-" ++ toString number.toInt.natAbs else toString number.toInt.natAbs := by
  have negative : number < 0 ↔ number.toInt < 0 := Int64.lt_iff_toInt_lt
  simp only [negative, Value.display, Text.showInteger]
  cases number.toInt with
  | ofNat size =>
      rw [if_neg (by simp)]
      rfl
  | negSucc size =>
      rw [if_pos (Int.negSucc_lt_zero size)]
      rfl

theorem ofRaw_display_integer (number : Int64) :
    Value.ofRaw (Value.integer number).display = .integer number :=
  (Value.Atomic.integer number).ofRaw_display

/-- The decimal form of an integer is read back as the integer, as one word in quotes and as it
is.  Without quotes a dash is a token of its own. -/
structure ReadsBack (number : Int64) : Prop where
  quoted : ReadsAs number (Token.quoted (Value.integer number).display)
    [.word (Value.integer number).display]
  positive : 0 ≤ number → ReadsAs number (Value.integer number).display
    [.word (Value.integer number).display]
  negative : number < 0 → ∃ size, (Value.integer number).display = "-" ++ size ∧
    ReadsAs number (Value.integer number).display [.flagMarker, .word size]

theorem denote?_display (number : Int64) (previous : Option Value) :
    (ValueForm.raw false (Value.integer number).display []).denote? previous =
      some (.integer number) :=
  denote?_word (.integer number)

theorem readsBack (number : Int64) : ReadsBack number where
  quoted := by
    refine readsAs_of_denotes (.raw false _ []) ?_ (denote?_display number)
    have scanned := Token.scan_quoted (Value.integer number).display []
    rwa [List.append_nil, Token.scan_nil] at scanned
  positive nonnegative := by
    refine readsAs_of_denotes (.raw false _ []) ?_ (denote?_display number)
    rw [display_integer, if_neg (Int64.not_lt.2 nonnegative)]
    exact scan_toString _
  negative negative := by
    have shown := display_integer number
    rw [if_pos negative] at shown
    refine ⟨_, shown, readsAs_of_denotes (.raw true _ []) ?_ fun previous => ?_⟩
    · have chars : (Value.integer number).display.toList =
          '-' :: (toString number.toInt.natAbs).toList := by
        rw [shown, String.toList_append]
        rfl
      rw [chars, Token.scan_special Token.special_dash, scan_toString]
      rfl
    · have joined : ".".intercalate ["-" ++ toString number.toInt.natAbs] =
          (Value.integer number).display := by
        rw [shown, String.intercalate_singleton]
      simp only [ValueForm.denote?, if_true, joined, ofRaw_display_integer]

end Lines

section Dots

open CommandShell.Bundle (ValueForm dotted readValue)

theorem dot_not_mem_text (numeral : Text.Numeral) : '.' ∉ numeral.text.toList := by
  have notDigit : ∀ digit, Text.digitChar digit ≠ '.' := by decide
  have notSign : '.' ∉ numeral.sign.chars := by cases numeral.sign <;> decide
  rw [Text.toList_text, List.mem_append, List.mem_map, not_or]
  exact ⟨notSign, fun ⟨digit, _, isDot⟩ => notDigit digit isDot⟩

theorem ofRaw_of_dot {raw : String} (dot : '.' ∈ raw.toList) :
    Value.ofRaw raw = .plainText raw := by
  refine (Value.recognizes raw).otherwise ?_
  rintro ⟨number, isInteger⟩
  obtain ⟨numeral, rfl, -⟩ := ((Value.recognizes raw).integer_iff number).1 isInteger
  exact dot_not_mem_text numeral dot

/-- A value with a dot between words is a text, whatever the words are and whatever follows. -/
theorem readValue_dotted (previous : Option Value) (name : String) (negative : Bool)
    (first second : String) (rest : List Token) : ∃ parts after shorter,
    rest = dotted parts ++ after ∧
      readValue previous name ((ValueForm.raw negative first [second]).tokens ++ rest) =
        .ok (.plainText ((if negative then "-" else "") ++
          ".".intercalate (first :: second :: parts)), ⟨after, shorter⟩) := by
  have joins (text : String) : ∃ parts after shorter, rest = dotted parts ++ after ∧
      Bundle.joinDotted text (.moduleDelimiter :: .word second :: rest) =
        (".".intercalate (text :: second :: parts), ⟨after, shorter⟩) := by
    obtain ⟨parts, restEq, textEq⟩ := Bundle.parts_of_joinDotted (text ++ "." ++ second) rest
    refine ⟨parts, _, Nat.le_succ_of_le (Nat.le_succ_of_le (Bundle.joinDotted _ _).2.2),
      restEq, ?_⟩
    rw [Bundle.joinDotted, ← Bundle.intercalate_joined, ← textEq]
  have isText (text : String) (parts : List String) :
      Value.ofRaw (".".intercalate (text :: second :: parts)) =
        .plainText (".".intercalate (text :: second :: parts)) := by
    refine ofRaw_of_dot ?_
    rw [String.intercalate_cons_cons]
    simp
  cases negative with
  | false =>
      obtain ⟨parts, after, shorter, restEq, joined⟩ := joins first
      refine ⟨parts, after, Nat.lt_succ_of_le shorter, restEq, ?_⟩
      rw [if_neg Bool.false_ne_true, String.empty_append, ← isText]
      change readValue previous name (.word first :: .moduleDelimiter :: .word second :: rest) = _
      rw [readValue, joined]
      rfl
  | true =>
      obtain ⟨parts, after, shorter, restEq, joined⟩ := joins ("-" ++ first)
      refine ⟨parts, after, Nat.lt_succ_of_lt (Nat.lt_succ_of_le shorter), restEq, ?_⟩
      rw [if_pos rfl, ← String.intercalate_cons_append, ← isText]
      change readValue previous name
        (.flagMarker :: .word first :: .moduleDelimiter :: .word second :: rest) = _
      rw [readValue, joined]
      rfl

end Dots

/-- Raw text is an integer exactly if it is a numeral of one with 64 bits, and otherwise it is text.
So the decimal form of every integer is read back, in quotes and as it is, and a value with a dot
between words is a text. -/
theorem recognizes_integers :
    (∀ raw, Value.Recognizes raw) ∧ (∀ number, ReadsBack number) ∧
    ∀ previous name negative first second rest, ∃ parts after shorter,
      rest = Bundle.dotted parts ++ after ∧
        Bundle.readValue previous name
            ((Bundle.ValueForm.raw negative first [second]).tokens ++ rest) =
          .ok (.plainText ((if negative then "-" else "") ++
            ".".intercalate (first :: second :: parts)), ⟨after, shorter⟩) :=
  ⟨Value.recognizes, readsBack, readValue_dotted⟩

/-- The least integer is read from a dash and a word, and the number before it is a text.  Zeros in
front and a plus do not matter, and a second sign does. -/
theorem recognizes_extremes :
    tokenize "-9223372036854775808" = .ok [.flagMarker, .word "9223372036854775808"] ∧
    (∃ shorter, Bundle.readValue none "n" [.flagMarker, .word "9223372036854775808"] =
      .ok (.integer Int64.minValue, ⟨[], shorter⟩)) ∧
    Value.ofRaw "-9223372036854775809" = .plainText "-9223372036854775809" ∧
    Value.ofRaw "+0009223372036854775807" = .integer Int64.maxValue ∧
    Value.ofRaw "-+5" = .plainText "-+5" := by
  obtain ⟨recognizes, readsBack, -⟩ := recognizes_integers
  have shown : (Value.integer Int64.minValue).display = "-" ++ "9223372036854775808" := by
    decide +kernel
  obtain ⟨size, sizeEq, reads⟩ := (readsBack Int64.minValue).negative (by decide)
  obtain rfl : size = "9223372036854775808" :=
    String.append_right_inj _ |>.1 (sizeEq.symm.trans shown)
  rw [shown] at reads
  refine ⟨reads.tokenized, reads.value none "n" [] nofun, rfl, ?_, rfl⟩
  exact ((recognizes _).integer_iff _).2
    ⟨⟨.plus, 0, [0, 0, 9, 2, 2, 3, 3, 7, 2, 0, 3, 6, 8, 5, 4, 7, 7, 5, 8, 0, 7]⟩, rfl, rfl⟩

end CommandShell
