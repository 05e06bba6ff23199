/-!
# Blank characters

The characters with the Unicode property `White_Space`.  They separate the
words of a line, they are the blanks of the regular expression `\s`, and no
name contains one.
-/

namespace CommandShell

/-- Whether a character has the property `White_Space`. -/
def isBlank (c : Char) : Bool :=
  let code := c.toNat
  (0x09 ≤ code && code ≤ 0x0D) || code == 0x20 || code == 0x85 ||
    code == 0xA0 || code == 0x1680 || (0x2000 ≤ code && code ≤ 0x200A) ||
    code == 0x2028 || code == 0x2029 || code == 0x202F || code == 0x205F ||
    code == 0x3000

def isBlankText (text : String) : Bool := text.toList.all isBlank

end CommandShell
