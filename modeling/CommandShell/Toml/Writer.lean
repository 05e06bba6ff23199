/-!
# Writing TOML

A table of texts is written under one header, with one line for each entry.
Keys and texts stand in double quotes, and control characters in them are
written as code points.
-/

namespace CommandShell
namespace Toml

def hexDigit (value : Nat) : Char :=
  if value < 10 then Char.ofNat ('0'.toNat + value)
  else Char.ofNat ('a'.toNat + (value - 10))

/-- A character as it stands in a quoted string. -/
def quotedChar (c : Char) : List Char :=
  if c = '"' ∨ c = '\\' then ['\\', c]
  else if c.toNat < 0x20 ∨ c.toNat = 0x7F then
    ['\\', 'u', '0', '0', hexDigit (c.toNat / 16), hexDigit (c.toNat % 16)]
  else [c]

def quotedText (text : String) : String :=
  String.ofList ('"' :: text.toList.flatMap quotedChar ++ ['"'])

/-- A document with one table of texts. -/
def writeTable (name : String) (entries : List (String × String)) : String :=
  let lines := entries.map fun (key, text) =>
    quotedText key ++ " = " ++ quotedText text ++ "\n"
  "[" ++ name ++ "]\n" ++ String.join lines

end Toml
end CommandShell
