import Highlight.Pattern.Segment
import Highlight.Text.Age
import Highlight.Text.Script.Shared

/-!
# Properties

The sets of characters that a pattern can name: traits, categories, scripts, and the values of a few
properties.  The case of letters and the separators of words do not count in a name.
-/

namespace Highlight.Property

open CharSet
open Text (Category Script Age)

/-- Whether a character separates the words of a name. -/
def isSeparator (c : Char) : Bool := c == ' ' || c == '_' || c == '-'

/-- A name without its separators, in small letters; an is in front of it is dropped, unless nothing
but a "c" remains. -/
def plainName (cs : List Char) : String :=
  let lower := cs.map Char.toLower
  let dropped := lower.take 2 == ['i', 's']
  let rest :=
    (if dropped then lower.drop 2 else lower).filter fun c => c.val < 128 && !isSeparator c
  if dropped && rest == ['c'] then "isc" else String.ofList rest

def unassigned : CharSet := compl (ofCategories Category.assigned)

/-- The categories and groups of them with their names. -/
def categories : List (List String × CharSet) :=
  [
    (["any"], all),
    (["ascii"], ascii),
    (["assigned"], ofCategories Category.assigned),
    (["l", "letter"], ofCategories Category.letters),
    (["lc", "casedletter"], ofCategories Category.casedLetters),
    (["lu", "uppercaseletter"], ofCategories [.uppercaseLetter]),
    (["ll", "lowercaseletter"], ofCategories [.lowercaseLetter]),
    (["lt", "titlecaseletter"], ofCategories [.titlecaseLetter]),
    (["lm", "modifierletter"], ofCategories [.modifierLetter]),
    (["lo", "otherletter"], ofCategories [.otherLetter]),
    (["m", "mark", "combiningmark"], ofCategories Category.marks),
    (["mn", "nonspacingmark"], ofCategories [.nonspacingMark]),
    (["mc", "spacingmark"], ofCategories [.spacingMark]),
    (["me", "enclosingmark"], ofCategories [.enclosingMark]),
    (["n", "number"], Trait.numeric),
    (["nd", "decimalnumber", "digit"], digit),
    (["nl", "letternumber"], ofCategories [.letterNumber]),
    (["no", "othernumber"], ofCategories [.otherNumber]),
    (["p", "punctuation", "punct"], ofCategories Category.punctuation),
    (["pc", "connectorpunctuation"], ofCategories [.connectorPunctuation]),
    (["pd", "dashpunctuation"], ofCategories [.dashPunctuation]),
    (["ps", "openpunctuation"], ofCategories [.openPunctuation]),
    (["pe", "closepunctuation"], ofCategories [.closePunctuation]),
    (["pi", "initialpunctuation"], ofCategories [.initialPunctuation]),
    (["pf", "finalpunctuation"], ofCategories [.finalPunctuation]),
    (["po", "otherpunctuation"], ofCategories [.otherPunctuation]),
    (["s", "symbol"], ofCategories Category.symbols),
    (["sm", "mathsymbol"], ofCategories [.mathSymbol]),
    (["sc", "currencysymbol"], ofCategories [.currencySymbol]),
    (["sk", "modifiersymbol"], ofCategories [.modifierSymbol]),
    (["so", "othersymbol"], ofCategories [.otherSymbol]),
    (["z", "separator"], ofCategories Category.separators),
    (["zs", "spaceseparator"], ofCategories [.spaceSeparator]),
    (["zl", "lineseparator"], ofCategories [.lineSeparator]),
    (["zp", "paragraphseparator"], ofCategories [.paragraphSeparator]),
    (["c", "other"], union (ofCategories [.control, .format, .privateUse]) unassigned),
    (["cc", "control", "cntrl"], ofCategories [.control]),
    (["cf", "format"], ofCategories [.format]),
    (["co", "privateuse"], ofCategories [.privateUse]),
    (["cn", "unassigned"], unassigned)]

/-- The set of a name in a table. -/
def lookup? (table : List (List String × CharSet)) (name : String) : Option CharSet :=
  (table.find? (·.1.contains name)).map (·.2)

def script? (name : String) : Option CharSet :=
  (Script.named? name).map fun s => points s.boundaries

/-- The characters that are used in a script. -/
def usedIn? (name : String) : Option CharSet :=
  (Script.named? name).map fun s =>
    union (diff (points s.boundaries) (points Script.sharedBoundaries)) (points s.borrowed)

def versionNames (a : Age) : List String :=
  [a.version, "v" ++ String.ofList (a.version.toList.filter (· != '.'))]

/-- The characters of a version and all before it. -/
def upToAge? (name : String) : List Age → Option CharSet
  | [] => none
  | a :: as =>
      if (versionNames a).contains name then some (points a.boundaries)
      else (upToAge? name as).map (union (points a.boundaries))

/-- The set of a name: a trait, a category or a script. -/
def named? (name : String) : Option CharSet :=
  Trait.named? name <|> lookup? categories name <|> script? name

/-- The set of the characters for which a property has a value. -/
def valued? (property value : String) : Option CharSet :=
  match property with
  | "gc" => lookup? categories value
  | "generalcategory" => lookup? categories value
  | "sc" => script? value
  | "script" => script? value
  | "scx" => usedIn? value
  | "scriptextensions" => usedIn? value
  | "age" => upToAge? value Age.all
  | "gcb" => lookup? Segment.Grapheme.table value
  | "graphemeclusterbreak" => lookup? Segment.Grapheme.table value
  | "wb" => lookup? Segment.Word.table value
  | "wordbreak" => lookup? Segment.Word.table value
  | "sb" => lookup? Segment.Sentence.table value
  | "sentencebreak" => lookup? Segment.Sentence.table value
  | _ => none

/-- Splits at the first character that is `c`. -/
def splitAt? (c : Char) (cs : List Char) : Option (List Char × List Char) :=
  match cs.dropWhile (· != c) with
  | [] => none
  | _ :: rest => some (cs.takeWhile (· != c), rest)

/-- Splits at the first exclamation mark with an equals sign. -/
def splitAtUnequal? : List Char → Option (List Char × List Char)
  | [] => none
  | '!' :: '=' :: cs => some ([], cs)
  | c :: cs => (splitAtUnequal? cs).map fun (before, after) => (c :: before, after)

/-- The set that a written property stands for: a name, or a property and its value with a colon, an
equals sign, or an exclamation mark and an equals sign between them. -/
def ofChars? (cs : List Char) : Option CharSet :=
  match splitAtUnequal? cs <|> splitAt? ':' cs <|> splitAt? '=' cs with
  | some (property, value) => valued? (plainName property) (plainName value)
  | none => named? (plainName cs)

end Highlight.Property
