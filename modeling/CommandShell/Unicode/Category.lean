import CommandShell.Unicode.CategoryRanges

/-!
# General categories

The general categories sort all code points.  Several categories together form
a group, such as the letters.
-/

namespace CommandShell
namespace Unicode

/-- The general categories of assigned characters. -/
inductive Category where
  | uppercaseLetter
  | lowercaseLetter
  | titlecaseLetter
  | modifierLetter
  | otherLetter
  | nonspacingMark
  | spacingMark
  | enclosingMark
  | decimalNumber
  | letterNumber
  | otherNumber
  | connectorPunctuation
  | dashPunctuation
  | openPunctuation
  | closePunctuation
  | initialPunctuation
  | finalPunctuation
  | otherPunctuation
  | mathSymbol
  | currencySymbol
  | modifierSymbol
  | otherSymbol
  | spaceSeparator
  | lineSeparator
  | paragraphSeparator
  | control
  | format
  | privateUse
  deriving DecidableEq, Repr, Inhabited

namespace Category

def ranges : Category → CodeRanges
  | uppercaseLetter => uppercaseLetterRanges
  | lowercaseLetter => lowercaseLetterRanges
  | titlecaseLetter => titlecaseLetterRanges
  | modifierLetter => modifierLetterRanges
  | otherLetter => otherLetterRanges
  | nonspacingMark => nonspacingMarkRanges
  | spacingMark => spacingMarkRanges
  | enclosingMark => enclosingMarkRanges
  | decimalNumber => decimalNumberRanges
  | letterNumber => letterNumberRanges
  | otherNumber => otherNumberRanges
  | connectorPunctuation => connectorPunctuationRanges
  | dashPunctuation => dashPunctuationRanges
  | openPunctuation => openPunctuationRanges
  | closePunctuation => closePunctuationRanges
  | initialPunctuation => initialPunctuationRanges
  | finalPunctuation => finalPunctuationRanges
  | otherPunctuation => otherPunctuationRanges
  | mathSymbol => mathSymbolRanges
  | currencySymbol => currencySymbolRanges
  | modifierSymbol => modifierSymbolRanges
  | otherSymbol => otherSymbolRanges
  | spaceSeparator => spaceSeparatorRanges
  | lineSeparator => lineSeparatorRanges
  | paragraphSeparator => paragraphSeparatorRanges
  | control => controlRanges
  | format => formatRanges
  | privateUse => privateUseRanges

def contains (category : Category) (c : Char) : Bool :=
  category.ranges.contains c

/-- The letters that have case. -/
def casedLetters : List Category :=
  [uppercaseLetter, lowercaseLetter, titlecaseLetter]

def letters : List Category := casedLetters ++ [modifierLetter, otherLetter]

def marks : List Category := [nonspacingMark, spacingMark, enclosingMark]

def numbers : List Category := [decimalNumber, letterNumber, otherNumber]

def punctuation : List Category :=
  [connectorPunctuation, dashPunctuation, openPunctuation, closePunctuation,
    initialPunctuation, finalPunctuation, otherPunctuation]

def symbols : List Category :=
  [mathSymbol, currencySymbol, modifierSymbol, otherSymbol]

def separators : List Category :=
  [spaceSeparator, lineSeparator, paragraphSeparator]

/-- What is assigned but belongs to none of the groups above. -/
def others : List Category := [control, format, privateUse]

def assigned : List Category :=
  letters ++ marks ++ numbers ++ punctuation ++ symbols ++ separators ++ others

/-- The ranges of the characters of several categories. -/
def rangesOf (categories : List Category) : CodeRanges :=
  categories.flatMap ranges

end Category

def isDecimalDigit (c : Char) : Bool := Category.decimalNumber.contains c

def isNumeric (c : Char) : Bool :=
  Category.numbers.any fun category => category.contains c

def isMark (c : Char) : Bool :=
  Category.marks.any fun category => category.contains c

/-- The categories with the names that stand for them alone or in groups, in
lower case and without separators. -/
def categoryNames : List (List String × List Category) :=
  [(["casedletter", "lc"], Category.casedLetters),
    (["letter", "l"], Category.letters),
    (["uppercaseletter", "lu"], [.uppercaseLetter]),
    (["lowercaseletter", "ll"], [.lowercaseLetter]),
    (["titlecaseletter", "lt"], [.titlecaseLetter]),
    (["modifierletter", "lm"], [.modifierLetter]),
    (["otherletter", "lo"], [.otherLetter]),
    (["mark", "m", "combiningmark"], Category.marks),
    (["nonspacingmark", "mn"], [.nonspacingMark]),
    (["spacingmark", "mc"], [.spacingMark]),
    (["enclosingmark", "me"], [.enclosingMark]),
    (["number", "n"], Category.numbers),
    (["decimalnumber", "nd", "digit"], [.decimalNumber]),
    (["letternumber", "nl"], [.letterNumber]),
    (["othernumber", "no"], [.otherNumber]),
    (["punctuation", "p", "punct"], Category.punctuation),
    (["connectorpunctuation", "pc"], [.connectorPunctuation]),
    (["dashpunctuation", "pd"], [.dashPunctuation]),
    (["openpunctuation", "ps"], [.openPunctuation]),
    (["closepunctuation", "pe"], [.closePunctuation]),
    (["initialpunctuation", "pi"], [.initialPunctuation]),
    (["finalpunctuation", "pf"], [.finalPunctuation]),
    (["otherpunctuation", "po"], [.otherPunctuation]),
    (["symbol", "s"], Category.symbols),
    (["mathsymbol", "sm"], [.mathSymbol]),
    (["currencysymbol", "sc"], [.currencySymbol]),
    (["modifiersymbol", "sk"], [.modifierSymbol]),
    (["othersymbol", "so"], [.otherSymbol]),
    (["separator", "z"], Category.separators),
    (["spaceseparator", "zs"], [.spaceSeparator]),
    (["lineseparator", "zl"], [.lineSeparator]),
    (["paragraphseparator", "zp"], [.paragraphSeparator]),
    (["control", "cc", "cntrl"], [.control]),
    (["format", "cf"], [.format]),
    (["privateuse", "co"], [.privateUse]),
    (["assigned"], Category.assigned)]

/-- The categories that a name stands for. -/
def categories? (name : String) : Option (List Category) :=
  (categoryNames.find? fun entry => entry.1.contains name).map (·.2)

end Unicode
end CommandShell
