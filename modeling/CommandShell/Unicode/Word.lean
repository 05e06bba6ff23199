import CommandShell.Unicode.Alphabetic
import CommandShell.Unicode.Category

/-!
# Word characters

The characters that words are made of: alphabetic characters, marks, decimal
digits, connecting punctuation and the two joiners.
-/

namespace CommandShell
namespace Unicode

def joiners : CodeRanges := [(0x200C, 0x200D)]

def isWordChar (c : Char) : Bool :=
  isAlphabetic c || isMark c || isDecimalDigit c ||
    Category.connectorPunctuation.contains c || joiners.contains c

end Unicode
end CommandShell
