/-!
# Integers in text

The text of an integer is an optional sign followed by decimal digits.  Only
numbers in the range of 64-bit integers are read.
-/

namespace CommandShell
namespace Text

def digitsValue (digits : List Char) : Nat :=
  digits.foldl (fun value digit => 10 * value + (digit.toNat - '0'.toNat)) 0

/-- The 64-bit integer equal to `value`, if there is one. -/
def toInt64? (value : Int) : Option Int64 :=
  if inRange : Int64.minValue.toInt ≤ value ∧ value ≤ Int64.maxValue.toInt then
    some (Int64.ofIntLE value inRange.1 inRange.2)
  else none

def readDigits (negative : Bool) (digits : List Char) : Option Int64 :=
  if digits.isEmpty || !digits.all Char.isDigit then none
  else toInt64? (if negative then -(digitsValue digits : Int)
    else digitsValue digits)

/-- Read a text that is an integer from its first character to its last. -/
def readInteger? (text : String) : Option Int64 :=
  match text.toList with
  | '-' :: digits => readDigits true digits
  | '+' :: digits => readDigits false digits
  | digits => readDigits false digits

/-- The decimal form of an integer, with a sign only if it is negative. -/
def showInteger (value : Int64) : String := toString value.toInt

theorem toInt64?_eq_some_iff {value : Int} {result : Int64} :
    toInt64? value = some result ↔ result.toInt = value := by
  unfold toInt64?
  split
  · rename_i inRange
    constructor
    · intro equal
      cases equal
      simp
    · intro equal
      subst equal
      simp
  · rename_i outOfRange
    constructor
    · intro equal
      cases equal
    · intro equal
      subst equal
      exact absurd ⟨Int64.le_toInt _, Int64.toInt_le _⟩ outOfRange

end Text
end CommandShell
