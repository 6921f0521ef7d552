import Highlight.Pattern.CharSet
import Highlight.Text.Trait

/-!
# Traits

A trait is a set of characters that the standard gives a name.  Most of them follow from the
categories, with a few characters added or taken away.
-/

namespace Highlight.Trait

open CharSet
open Text (Category)
open Text.Category (letterNumber nonspacingMark spacingMark enclosingMark decimalNumber
  connectorPunctuation format)

def alphabetic : CharSet :=
  union (ofCategories (Category.letters ++ [letterNumber])) (points Text.Trait.otherAlphabetic)

def numeric : CharSet := ofCategories Category.numbers

def lowercase : CharSet :=
  union (ofCategories [.lowercaseLetter]) (points Text.Trait.otherLowercase)

def uppercase : CharSet :=
  union (ofCategories [.uppercaseLetter]) (points Text.Trait.otherUppercase)

def cased : CharSet := unionAll [lowercase, uppercase, ofCategories [.titlecaseLetter]]

/-- What does not end a word when its case is changed. -/
def caseIgnorable : CharSet :=
  union (ofCategories [nonspacingMark, enclosingMark, format, .modifierLetter, .modifierSymbol])
    (points Text.Trait.caseIgnorableSigns)

def changesLowercased : CharSet :=
  symmDiff (ofCategories [.uppercaseLetter, .titlecaseLetter])
    (points Text.Trait.lowercasedExceptions)

def changesUppercased : CharSet :=
  symmDiff (ofCategories [.lowercaseLetter]) (points Text.Trait.uppercasedExceptions)

def changesTitlecased : CharSet :=
  symmDiff changesUppercased (points Text.Trait.titlecasedExceptions)

/-- What a comparison without regard to case changes. -/
def changesCasefolded : CharSet :=
  symmDiff changesLowercased (points Text.Trait.casefoldedExceptions)

def changesCasemapped : CharSet :=
  unionAll [changesLowercased, changesUppercased, changesTitlecased]

def math : CharSet := union (ofCategories [.mathSymbol]) (points Text.Trait.otherMath)

def graphemeExtend : CharSet :=
  union (ofCategories [nonspacingMark, enclosingMark]) (points Text.Trait.otherGraphemeExtend)

/-- What is no character of a text by itself. -/
def unprinted : CharSet :=
  union (compl (ofCategories Category.assigned))
    (ofCategories [.control, format, .privateUse, .lineSeparator, .paragraphSeparator])

/-- What a character of a text can be built on. -/
def graphemeBase : CharSet := compl (union unprinted graphemeExtend)

/-- What patterns use as syntax or white space. -/
def patternReserved : CharSet :=
  union (points Text.Trait.patternSyntax) (points Text.Trait.patternWhiteSpace)

def idStart : CharSet :=
  diff
    (union (ofCategories (Category.letters ++ [letterNumber])) (points Text.Trait.otherIdStart))
    patternReserved

def idContinue : CharSet :=
  diff
    (unionAll [idStart, points Text.Trait.otherIdContinue,
      ofCategories [nonspacingMark, spacingMark, decimalNumber, connectorPunctuation]])
    patternReserved

/-- What can start an identifier, normalized or not. -/
def xidStart : CharSet := diff idStart (points Text.Trait.unstableIdStart)

/-- What can continue an identifier, normalized or not. -/
def xidContinue : CharSet := diff idContinue (points Text.Trait.unstableIdContinue)

/-- What is not shown where nothing is known about it. -/
def defaultIgnorable : CharSet :=
  diff
    (unionAll [ofCategories [format], points Text.Trait.otherDefaultIgnorable,
      points Text.Trait.variationSelector])
    (unionAll [blank, points Text.Trait.prependedConcatenationMark, points Text.Trait.shownFormats])

/-- The traits with their names, in small letters without separators. -/
def table : List (List String × CharSet) :=
  [
    (["ahex", "asciihexdigit"], ofRanges [('0', '9'), ('A', 'F'), ('a', 'f')]),
    (["alpha", "alphabetic"], alphabetic),
    (["bidic", "bidicontrol"], points Text.Trait.bidiControl),
    (["cased"], cased),
    (["ci", "caseignorable"], caseIgnorable),
    (["cwcf", "changeswhencasefolded"], changesCasefolded),
    (["cwcm", "changeswhencasemapped"], changesCasemapped),
    (["cwl", "changeswhenlowercased"], changesLowercased),
    (["cwt", "changeswhentitlecased"], changesTitlecased),
    (["cwu", "changeswhenuppercased"], changesUppercased),
    (["dash"], points Text.Trait.dash),
    (["dep", "deprecated"], points Text.Trait.deprecated),
    (["di", "defaultignorablecodepoint"], defaultIgnorable),
    (["dia", "diacritic"], points Text.Trait.diacritic),
    (["ebase", "emojimodifierbase"], points Text.Trait.emojiModifierBase),
    (["ecomp", "emojicomponent"], points Text.Trait.emojiComponent),
    (["emod", "emojimodifier"], points Text.Trait.emojiModifier),
    (["emoji"], points Text.Trait.emoji),
    (["epres", "emojipresentation"], points Text.Trait.emojiPresentation),
    (["ext", "extender"], points Text.Trait.extender),
    (["extpict", "extendedpictographic"], points Text.Trait.pictographic),
    (["grbase", "graphemebase"], graphemeBase),
    (["grext", "graphemeextend"], graphemeExtend),
    (["grlink", "graphemelink"], points Text.Trait.graphemeLink),
    (["hex", "hexdigit"], points Text.Trait.hexDigit),
    (["hyphen"], points Text.Trait.hyphen),
    (["idc", "idcontinue"], idContinue),
    (["ids", "idstart"], idStart),
    (["idsb", "idsbinaryoperator"], points Text.Trait.binaryDescription),
    (["idst", "idstrinaryoperator"], points #[12274, 12276]),
    (["idsu", "idsunaryoperator"], points #[12286, 12288]),
    (["idcompatmathcontinue"], points Text.Trait.compatMathContinue),
    (["idcompatmathstart"], points Text.Trait.compatMathStart),
    (["ideo", "ideographic"], points Text.Trait.ideographic),
    (["joinc", "joincontrol"], points #[8204, 8206]),
    (["loe", "logicalorderexception"], points Text.Trait.logicalOrderException),
    (["lower", "lowercase"], lowercase),
    (["math"], math),
    (["mcm", "modifiercombiningmark"], points Text.Trait.modifierCombiningMark),
    (["nchar", "noncharactercodepoint"], points Text.Trait.noncharacter),
    (["oalpha", "otheralphabetic"], points Text.Trait.otherAlphabetic),
    (["odi", "otherdefaultignorablecodepoint"], points Text.Trait.otherDefaultIgnorable),
    (["ogrext", "othergraphemeextend"], points Text.Trait.otherGraphemeExtend),
    (["oidc", "otheridcontinue"], points Text.Trait.otherIdContinue),
    (["oids", "otheridstart"], points Text.Trait.otherIdStart),
    (["olower", "otherlowercase"], points Text.Trait.otherLowercase),
    (["omath", "othermath"], points Text.Trait.otherMath),
    (["oupper", "otheruppercase"], points Text.Trait.otherUppercase),
    (["patsyn", "patternsyntax"], points Text.Trait.patternSyntax),
    (["patws", "patternwhitespace"], points Text.Trait.patternWhiteSpace),
    (["pcm", "prependedconcatenationmark"], points Text.Trait.prependedConcatenationMark),
    (["qmark", "quotationmark"], points Text.Trait.quotationMark),
    (["radical"], points Text.Trait.radical),
    (["ri", "regionalindicator"], points #[127462, 127488]),
    (["sd", "softdotted"], points Text.Trait.softDotted),
    (["sterm", "sentenceterminal"], points Text.Trait.sentenceTerminal),
    (["term", "terminalpunctuation"], points Text.Trait.terminalPunctuation),
    (["uideo", "unifiedideograph"], points Text.Trait.unifiedIdeograph),
    (["upper", "uppercase"], uppercase),
    (["vs", "variationselector"], points Text.Trait.variationSelector),
    (["wspace", "whitespace", "space"], blank),
    (["xidc", "xidcontinue"], xidContinue),
    (["xids", "xidstart"], xidStart)]

def named? (name : String) : Option CharSet := (table.find? (·.1.contains name)).map (·.2)

end Highlight.Trait
