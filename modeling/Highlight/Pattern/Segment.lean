import Highlight.Pattern.Trait
import Highlight.Text.Script

/-!
# Segmentation

The sets into which characters are sorted to find the bounds of characters as they are read, of
words and of sentences.
-/

namespace Highlight.Segment

open CharSet
open Text.Category (spacingMark format)

def carriageReturn : CharSet := single '\r'

def lineFeed : CharSet := single '\n'

def joiner : CharSet := single '\u200d'

/-- The letters that stand for the regions of flags. -/
def regional : CharSet := points #[127462, 127488]

def lineEnds : CharSet := ofRanges [('\x85', '\x85'), ('\u2028', '\u2029')]

def ofScripts (codes : List String) : CharSet :=
  unionAll (codes.filterMap fun code => (Text.Script.named? code).map fun s => points s.boundaries)

/-- The marks in front of what they belong to. -/
def prepended : CharSet := points Text.Trait.prependedConcatenationMark

namespace Grapheme

def extend : CharSet := union Trait.graphemeExtend (points Text.Trait.emojiModifier)

def control : CharSet :=
  diff
    (union (ofCategories [.lineSeparator, .paragraphSeparator, .control, format])
      (diff Trait.defaultIgnorable (ofCategories Text.Category.assigned)))
    (unionAll [carriageReturn, lineFeed, range '\u200c' '\u200d', prepended, Trait.graphemeExtend])

/-- The marks that take up room but are read with the character before them. -/
def spacing : CharSet :=
  diff (union (ofCategories [spacingMark]) (ofRanges [('\u0e33', '\u0e33'), ('\u0eb3', '\u0eb3')]))
    (union extend
      (points #[
        4139, 4141, 4152, 4153, 4194, 4197, 4199, 4206, 4227, 4228, 4231, 4237, 4239, 4240, 4250,
        4253, 6753, 6754, 6755, 6757, 43643, 43644, 43645, 43646, 71456, 71458]))

/-- What is read with the character after it. -/
def prepend : CharSet :=
  union prepended
    (points #[
      3406, 3407, 70082, 70084, 70609, 70610, 71999, 72000, 72001, 72002, 72250, 72251, 72324,
      72330, 73030, 73031, 73474, 73475])

/-- The syllables of hangul without a final consonant; the 27 after each of them have one. -/
def syllables : List Nat := (List.range 399).map fun i => 44032 + 28 * i

def openSyllable : CharSet := points (syllables.flatMap fun n => [n, n + 1]).toArray

def closedSyllable : CharSet := points (syllables.flatMap fun n => [n + 1, n + 28]).toArray

def table : List (List String × CharSet) :=
  [
    (["cn", "control"], control),
    (["cr"], carriageReturn),
    (["ex", "extend"], extend),
    (["l"], ofRanges [('\u1100', '\u115f'), ('\ua960', '\ua97c')]),
    (["lf"], lineFeed),
    (["lv"], openSyllable),
    (["lvt"], closedSyllable),
    (["pp", "prepend"], prepend),
    (["ri", "regionalindicator"], regional),
    (["sm", "spacingmark"], spacing),
    (["t"], ofRanges [('\u11a8', '\u11ff'), ('\ud7cb', '\ud7fb')]),
    (["v"], points #[4448, 4520, 55216, 55239, 93539, 93540, 93543, 93547]),
    (["zwj"], joiner)]

end Grapheme

namespace Word

def extend : CharSet :=
  diff
    (unionAll [Trait.graphemeExtend, ofCategories [spacingMark], points Text.Trait.emojiModifier])
    joiner

def katakana : CharSet :=
  union (ofScripts ["kana"])
    (points #[12337, 12342, 12443, 12445, 12448, 12449, 12540, 12541, 65392, 65393])

def hebrewLetter : CharSet := inter (ofScripts ["hebr"]) (ofCategories [.otherLetter])

def unspaced : CharSet :=
  ofScripts ["thai", "laoo", "khmr", "mymr", "tale", "talu", "lana", "tavt", "ahom"]

def letter : CharSet :=
  diff
    (union Trait.alphabetic
      (points #[
        706, 710, 722, 728, 734, 736, 741, 748, 749, 750, 751, 768, 1370, 1373, 1374, 1375, 1418,
        1419, 1523, 1524, 1807, 1808, 42760, 42775, 42784, 42786, 42889, 42891, 43867, 43868]))
    (unionAll [points Text.Trait.ideographic, katakana, ofScripts ["hira"], extend, hebrewLetter,
      unspaced])

def numeric : CharSet :=
  union (ofCategories [.decimalNumber])
    (union (single '\u066b') (diff prepended (single '\u070f')))

def table : List (List String × CharSet) :=
  [
    (["cr"], carriageReturn),
    (["dq", "doublequote"], single '"'),
    (["ex", "extendnumlet"], union (ofCategories [.connectorPunctuation]) (single '\u202f')),
    (["extend"], extend),
    (["fo", "format"],
      diff (ofCategories [format]) (unionAll [range '\u200b' '\u200d', prepended, extend])),
    (["hl", "hebrewletter"], hebrewLetter),
    (["ka", "katakana"], katakana),
    (["le", "aletter"], letter),
    (["lf"], lineFeed),
    (["mb", "midnumlet"],
      points #[46, 47, 8216, 8218, 8228, 8229, 65106, 65107, 65287, 65288, 65294, 65295]),
    (["ml", "midletter"],
      points #[
        58, 59, 183, 184, 903, 904, 1375, 1376, 1524, 1525, 8231, 8232, 65043, 65044, 65109, 65110,
        65306, 65307]),
    (["mn", "midnum"],
      points #[
        44, 45, 59, 60, 894, 895, 1417, 1418, 1548, 1550, 1644, 1645, 2040, 2041, 8260, 8261, 65040,
        65041, 65044, 65045, 65104, 65105, 65108, 65109, 65292, 65293, 65307, 65308]),
    (["nl", "newline"], union (range '\x0b' '\x0c') lineEnds),
    (["nu", "numeric"], numeric),
    (["ri", "regionalindicator"], regional),
    (["sq", "singlequote"], single '\''),
    (["wsegspace"],
      diff (ofCategories [.spaceSeparator])
        (ofRanges [('\xa0', '\xa0'), ('\u2007', '\u2007'), ('\u202f', '\u202f')])),
    (["zwj"], joiner)]

end Word

namespace Sentence

def extend : CharSet := unionAll [Trait.graphemeExtend, ofCategories [spacingMark], joiner]

def lower : CharSet :=
  diff Trait.lowercase (union extend (ofRanges [('\u10d0', '\u10fa'), ('\u10fd', '\u10ff')]))

def upper : CharSet :=
  diff (union Trait.uppercase (ofCategories [.titlecaseLetter]))
    (ofRanges [('\u1c90', '\u1cba'), ('\u1cbd', '\u1cbf')])

/-- Stops that end a sentence or stand in a number. -/
def stop : CharSet := points #[46, 47, 8228, 8229, 65106, 65107, 65294, 65295]

def numeric : CharSet :=
  union (ofCategories [.decimalNumber])
    (union (range '\u066b' '\u066c') (diff prepended (single '\u070f')))

def table : List (List String × CharSet) :=
  [
    (["at", "aterm"], stop),
    (["cl", "close"],
      union
        (diff
          (ofCategories
            [.openPunctuation, .closePunctuation, .initialPunctuation, .finalPunctuation])
          stop)
        (points #[
          34, 35, 39, 40, 10075, 10081, 11776, 11778, 11782, 11785, 11787, 11788, 128630, 128633])),
    (["cr"], carriageReturn),
    (["ex", "extend"], extend),
    (["fo", "format"], diff (ofCategories [format]) (unionAll [extend, prepended])),
    (["le", "oletter"],
      diff (unionAll [Trait.alphabetic, single '\u05f3', single '\u070f'])
        (unionAll [lower, upper, extend])),
    (["lf"], lineFeed),
    (["lo", "lower"], lower),
    (["nu", "numeric"], numeric),
    (["sc", "scontinue"],
      points #[
        44, 46, 58, 60, 894, 895, 1373, 1374, 1548, 1550, 2040, 2041, 6146, 6147, 6152, 6153, 8211,
        8213, 12289, 12290, 65040, 65042, 65043, 65045, 65073, 65075, 65104, 65106, 65108, 65110,
        65112, 65113, 65123, 65124, 65292, 65294, 65306, 65308, 65380, 65381]),
    (["se", "sep"], lineEnds),
    (["sp"], diff blank (unionAll [carriageReturn, lineFeed, lineEnds])),
    (["st", "sterm"], diff (points Text.Trait.sentenceTerminal) stop),
    (["up", "upper"], upper)]

end Sentence

end Highlight.Segment
