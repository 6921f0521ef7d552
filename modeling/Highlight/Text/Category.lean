import Highlight.Text.Category.Controls
import Highlight.Text.Category.Letters
import Highlight.Text.Category.Marks
import Highlight.Text.Category.Signs

/-!
# Categories of characters

Every assigned character is of one category: a kind of letter, mark, number, punctuation, sign,
separator or control character.
-/

namespace Highlight.Text

/-- A category of characters. -/
inductive Category where
  | uppercaseLetter
  | lowercaseLetter
  | titlecaseLetter
  | modifierLetter
  | otherLetter
  | nonspacingMark
  | spacingMark
  | enclosingMark
  | decimalNumber
  | letterNumber
  | otherNumber
  | connectorPunctuation
  | dashPunctuation
  | openPunctuation
  | closePunctuation
  | initialPunctuation
  | finalPunctuation
  | otherPunctuation
  | mathSymbol
  | currencySymbol
  | modifierSymbol
  | otherSymbol
  | spaceSeparator
  | lineSeparator
  | paragraphSeparator
  | control
  | format
  | privateUse
  deriving DecidableEq, Repr

namespace Category

def boundaries : Category → Array Nat
  | uppercaseLetter => uppercaseLetterBoundaries
  | lowercaseLetter => lowercaseLetterBoundaries
  | titlecaseLetter => titlecaseLetterBoundaries
  | modifierLetter => modifierLetterBoundaries
  | otherLetter => otherLetterBoundaries
  | nonspacingMark => nonspacingMarkBoundaries
  | spacingMark => spacingMarkBoundaries
  | enclosingMark => enclosingMarkBoundaries
  | decimalNumber => decimalNumberBoundaries
  | letterNumber => letterNumberBoundaries
  | otherNumber => otherNumberBoundaries
  | connectorPunctuation => connectorPunctuationBoundaries
  | dashPunctuation => dashPunctuationBoundaries
  | openPunctuation => openPunctuationBoundaries
  | closePunctuation => closePunctuationBoundaries
  | initialPunctuation => initialPunctuationBoundaries
  | finalPunctuation => finalPunctuationBoundaries
  | otherPunctuation => otherPunctuationBoundaries
  | mathSymbol => mathSymbolBoundaries
  | currencySymbol => currencySymbolBoundaries
  | modifierSymbol => modifierSymbolBoundaries
  | otherSymbol => otherSymbolBoundaries
  | spaceSeparator => spaceSeparatorBoundaries
  | lineSeparator => lineSeparatorBoundaries
  | paragraphSeparator => paragraphSeparatorBoundaries
  | control => controlBoundaries
  | format => formatBoundaries
  | privateUse => privateUseBoundaries

def casedLetters : List Category :=
  [uppercaseLetter, lowercaseLetter, titlecaseLetter]

def letters : List Category := casedLetters ++ [modifierLetter, otherLetter]

def marks : List Category :=
  [nonspacingMark, spacingMark, enclosingMark]

def numbers : List Category :=
  [decimalNumber, letterNumber, otherNumber]

def punctuation : List Category :=
  [connectorPunctuation, dashPunctuation, openPunctuation, closePunctuation, initialPunctuation,
    finalPunctuation, otherPunctuation]

def symbols : List Category :=
  [mathSymbol, currencySymbol, modifierSymbol, otherSymbol]

def separators : List Category :=
  [spaceSeparator, lineSeparator, paragraphSeparator]

def assigned : List Category :=
  letters ++ marks ++ numbers ++ punctuation ++ symbols ++ separators ++
    [control, format, privateUse]

end Category

end Highlight.Text
