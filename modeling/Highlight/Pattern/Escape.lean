import Highlight.Pattern.Ascii
import Highlight.Pattern.Basic
import Highlight.Pattern.Flags
import Highlight.Pattern.Layout
import Highlight.Pattern.Property

/-!
# Escapes in patterns

What a backslash stands for together with the characters after it: a literal character, a set of
characters or a condition on the place.
-/

namespace Highlight

/-- Why a text is not a pattern. -/
inductive PatternError where
  | unclosedGroup
  | unopenedGroup
  | nestedTooDeep
  | badGroupName
  | repeatedGroupName
  | lookAround
  | badFlag
  | nothingToRepeat
  | badCount
  | tooLarge
  | danglingEscape
  | unknownEscape
  | backreference
  | unknownProperty
  | badCodePoint
  /-- More than ASCII characters are asked for where only these are known. -/
  | outsideAscii
  | unclosedClass
  | badRange
  | badClassEscape
  deriving DecidableEq, Repr

namespace Pattern

/-- What an escape stands for. -/
inductive Escape where
  | literal (c : Char)
  | set (s : CharSet)
  | look (l : Look)
  deriving DecidableEq, Repr

/-- The characters that mean something else than themselves in a pattern. -/
def isMeta (c : Char) : Bool :=
  ['\\', '.', '+', '*', '?', '(', ')', '|', '[', ']', '{', '}', '^', '$', '#', '&', '-', '~']
    |>.contains c

/-- Whether a character may be escaped although nothing asks for it. -/
def isPlainEscape (c : Char) : Bool :=
  c.val < 128 && !c.isAlphanum && c != '<' && c != '>'

def hexDigit? (c : Char) : Option Nat :=
  if '0' ≤ c && c ≤ '9' then some (c.toNat - '0'.toNat)
  else if 'a' ≤ c && c ≤ 'f' then some (c.toNat - 'a'.toNat + 10)
  else if 'A' ≤ c && c ≤ 'F' then some (c.toNat - 'A'.toNat + 10)
  else none

/-- The value of a row of hexadecimal digits, if they are all that. -/
def hexValue? (cs : List Char) : Option Nat :=
  cs.foldl (fun n c => do return (← n) * 16 + (← hexDigit? c)) (some 0)

/-- The character with a code point, if it is one. -/
def charOfCode (n : Nat) : Except PatternError Char :=
  if n.isValidChar then .ok (Char.ofNat n) else .error .badCodePoint

def charOfDigits (digits : List Char) : Except PatternError Char :=
  match digits, hexValue? digits with
  | _ :: _, some n => charOfCode n
  | _, _ => .error .badCodePoint

/-- Reads a code point: exactly `width` digits, or any number of them in braces.  Two digits stand
for a byte, which has to be an ASCII character where only these are known. -/
def readCode (f : Flags) (width : Nat) (cs : List Char) :
    Except PatternError (Escape × List Char) :=
  match skipIf f.verbose cs with
  | '{' :: cs =>
      match splitAtBrace? f.verbose false cs with
      | none => .error .badCodePoint
      | some (digits, rest) => do return (.literal (← charOfDigits digits), rest)
  | cs =>
      match takeSpaced? f.verbose width cs with
      | none => .error .badCodePoint
      | some (digits, rest) => do
          let c ← charOfDigits digits
          if f.asciiOnly && width == 2 && 128 ≤ c.val then throw .outsideAscii
          return (.literal c, rest)

/-- Reads a property, a letter or a name in braces, into the set of its characters or of all
others. -/
def readProperty (f : Flags) (negated : Bool) (cs : List Char) :
    Except PatternError (Escape × List Char) :=
  let found : Option CharSet × List Char :=
    match skipIf f.verbose cs with
    | [] => (none, [])
    | '{' :: cs =>
        match splitAtBrace? f.verbose false cs with
        | none => (none, [])
        | some (name, rest) => (Property.ofChars? name, rest)
    | c :: cs => (Property.named? (Property.plainName [c]), cs)
  match found with
  | (none, _) => .error .unknownProperty
  | (some s, rest) =>
      if f.asciiOnly then .error .outsideAscii
      else .ok (.set (CharSet.negateIf negated (f.fold s)), rest)

/-- Whether a character can stand in the name of a word edge. -/
def isEdgeNameChar (c : Char) : Bool := c.isAlpha || c == '-'

/-- The place by the words that a name stands for. -/
def wordPlace? : String → Option WordPlace
  | "start" => some .start
  | "end" => some .stop
  | "start-half" => some .startHalf
  | "end-half" => some .stopHalf
  | _ => none

/-- Reads what follows the escape of a word edge: a name in braces narrows it down. -/
def readWordEdge (f : Flags) (cs : List Char) : Except PatternError (Escape × List Char) :=
  let named? :=
    match cs with
    | '{' :: cs => if (skipIf f.verbose cs).head?.any isEdgeNameChar then some cs else none
    | _ => none
  match named? with
  | none => .ok (.look (.word f.asciiOnly .edge), cs)
  | some cs =>
      match splitAtBrace? f.verbose false cs with
      | none => .error .unknownEscape
      | some (name, rest) =>
          match wordPlace? (String.ofList name) with
          | some place => .ok (.look (.word f.asciiOnly place), rest)
          | none => .error .unknownEscape

/-- The set that an escaped small letter stands for. -/
def classSet (f : Flags) (c : Char) : CharSet :=
  match c with
  | 'd' => if f.asciiOnly then asciiDigit else .digit
  | 's' => if f.asciiOnly then asciiSpace else .blank
  | _ => if f.asciiOnly then asciiWord else .word

/-- The set of all other characters than an escaped small letter stands for. -/
def otherSet (f : Flags) (c : Char) : Except PatternError Escape :=
  if f.asciiOnly then .error .outsideAscii else .ok (.set (.compl (classSet f c)))

def readEscape (f : Flags) : List Char → Except PatternError (Escape × List Char)
  | [] => .error .danglingEscape
  | 'x' :: cs => readCode f 2 cs
  | 'u' :: cs => readCode f 4 cs
  | 'U' :: cs => readCode f 8 cs
  | 'p' :: cs => readProperty f false cs
  | 'P' :: cs => readProperty f true cs
  | 'd' :: cs => .ok (.set (classSet f 'd'), cs)
  | 'D' :: cs => do return (← otherSet f 'd', cs)
  | 's' :: cs => .ok (.set (classSet f 's'), cs)
  | 'S' :: cs => do return (← otherSet f 's', cs)
  | 'w' :: cs => .ok (.set (classSet f 'w'), cs)
  | 'W' :: cs => do return (← otherSet f 'w', cs)
  | 'a' :: cs => .ok (.literal '\x07', cs)
  | 'f' :: cs => .ok (.literal '\x0c', cs)
  | 't' :: cs => .ok (.literal '\t', cs)
  | 'n' :: cs => .ok (.literal '\n', cs)
  | 'r' :: cs => .ok (.literal '\r', cs)
  | 'v' :: cs => .ok (.literal '\x0b', cs)
  | 'A' :: cs => .ok (.look .textStart, cs)
  | 'z' :: cs => .ok (.look .textEnd, cs)
  | 'b' :: cs => readWordEdge f cs
  | 'B' :: cs => .ok (.look (.word f.asciiOnly .noEdge), cs)
  | '<' :: cs => .ok (.look (.word f.asciiOnly .start), cs)
  | '>' :: cs => .ok (.look (.word f.asciiOnly .stop), cs)
  | c :: cs =>
      if isPlainEscape c then .ok (.literal c, cs)
      else if c.isDigit then .error .backreference
      else .error .unknownEscape

/-- A text with a backslash before every character that means something else than itself. -/
def escape (s : String) : String :=
  String.ofList (s.toList.flatMap fun c => if isMeta c then ['\\', c] else [c])

/-- The pattern of a list of words: any one of them, with a word edge on either side. -/
def words (ws : List String) : String := "\\b(?:" ++ "|".intercalate (ws.map escape) ++ ")\\b"

end Pattern

end Highlight
