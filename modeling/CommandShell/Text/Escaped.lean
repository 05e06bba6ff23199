import CommandShell.Unicode.Printable

/-!
# Escaped text

A text in double quotes in which every character can be seen: quotes,
backslashes and common control characters have short escapes, and a character
that is not printable or that combines with the one before it is written as its
code point.
-/

namespace CommandShell
namespace Text

/-- The digits of a number in base 16, in lower case. -/
def hexadecimal (number : Nat) : String :=
  String.ofList (Nat.toDigits 16 number)

def escapedChar (c : Char) : String :=
  match c with
  | '\x00' => "\\0"
  | '\t' => "\\t"
  | '\n' => "\\n"
  | '\r' => "\\r"
  | '"' => "\\\""
  | '\\' => "\\\\"
  | c =>
      if Unicode.isPrintable c && !Unicode.isExtender c then c.toString
      else "\\u\x7b" ++ hexadecimal c.toNat ++ "\x7d"

/-- A text in escaped form, in double quotes. -/
def escaped (text : String) : String :=
  "\"" ++ String.join (text.toList.map escapedChar) ++ "\""

end Text
end CommandShell
