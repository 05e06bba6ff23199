import CommandShell.Value

/-!
# Decimal forms

The decimal form of an integer reads back as that integer, at both ends of the range
too.  So one raw text stands for exactly the atomic values, which are the integers and
the texts that do not read as one.
-/

namespace CommandShell

namespace Text

theorem digitsValue_toDigits (number : Nat) :
    digitsValue (Nat.toDigits 10 number) = number := by
  rw [digitsValue, ← Nat.ofDigitChars_eq_foldl, Nat.ofDigitChars_ten_toDigits]

theorem all_isDigit_toDigits (number : Nat) :
    (Nat.toDigits 10 number).all Char.isDigit = true :=
  List.all_eq_true.2 fun _ member =>
    Nat.isDigit_of_mem_toDigits (by decide) (by decide) member

theorem readDigits_toDigits (negative : Bool) (number : Nat) :
    readDigits negative (Nat.toDigits 10 number) =
      toInt64? (if negative then -(number : Int) else number) := by
  have nonempty : (Nat.toDigits 10 number).isEmpty = false := by
    simp [Nat.toDigits_ne_nil]
  simp only [readDigits, nonempty, all_isDigit_toDigits, digitsValue_toDigits,
    Bool.not_true, Bool.or_self, Bool.false_eq_true, if_false]

theorem readInteger?_of_digits {digits : List Char}
    (allDigits : digits.all Char.isDigit = true) :
    readInteger? (String.ofList digits) = readDigits false digits := by
  rw [readInteger?, String.toList_ofList]
  split
  · simp at allDigits
  · simp at allDigits
  · rfl

/-- The decimal form of an integer is read as that integer. -/
theorem readInteger?_showInteger (number : Int64) :
    readInteger? (showInteger number) = some number := by
  rw [showInteger]
  cases valueEq : number.toInt with
  | ofNat size =>
      have shown : toString (Int.ofNat size) = String.ofList (Nat.toDigits 10 size) :=
        Nat.toString_eq_ofList_toDigits
      rw [shown, readInteger?_of_digits (all_isDigit_toDigits size),
        readDigits_toDigits, toInt64?_eq_some_iff]
      exact valueEq
  | negSucc size =>
      have shown : toString (Int.negSucc size) =
          String.ofList ('-' :: Nat.toDigits 10 (size + 1)) := by
        rw [String.ofList_cons, ← Nat.toString_eq_ofList_toDigits]
        rfl
      rw [shown, readInteger?, String.toList_ofList]
      change readDigits true (Nat.toDigits 10 (size + 1)) = some number
      rw [readDigits_toDigits, toInt64?_eq_some_iff]
      exact valueEq

end Text

namespace Value

/-- What one raw text can stand for. -/
inductive Atomic : Value → Prop
  | integer (number : Int64) : Atomic (.integer number)
  | text {content : String} (notInteger : Text.readInteger? content = .none) :
      Atomic (.plainText content)

theorem atomic_ofRaw (raw : String) : (ofRaw raw).Atomic := by
  rw [ofRaw]
  split
  · exact .integer _
  · next notInteger => exact .text notInteger

theorem Atomic.ofRaw_display {value : Value} (atomic : value.Atomic) :
    ofRaw value.display = value := by
  cases atomic with
  | integer number => rw [display, ofRaw, Text.readInteger?_showInteger]
  | text notInteger => rw [plainText, display, ofRaw, notInteger]; rfl

end Value
end CommandShell
