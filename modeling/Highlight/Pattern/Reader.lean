import Highlight.Pattern.Class
import Highlight.Pattern.Room

/-!
# Reading patterns

`Pattern.ofString` reads the written form of a pattern: literal characters, escapes, classes, groups
with names and flags, alternatives, greedy and lazy repetitions, and conditions on the place.  The
group named `t` is the token group.  Conditions on the text around a match and references back to
a group are no part of the language.

The reader is told how much room the test for a set takes up; `ofString` counts it by the bytes of
the characters.
-/

namespace Highlight.Pattern

/-- A part that has been read, with the number of levels that its written form has and the room it
takes up.  A part that takes up more room than a pattern may is not written out. -/
structure Part where
  pattern : Pattern
  depth : Nat := 0
  room : Nat := stateRoom

namespace Part

/-- The parts one after the other; what sets flags is no part, but keeps its place.  Several of them
are a level of their own. -/
def concat (items : List (Option Part)) : Part :=
  let parts := items.filterMap id
  let depth := parts.foldl (fun d a => max d a.depth) 0
  { pattern := Pattern.concat (parts.map (·.pattern))
    depth := if items.length ≤ 1 then depth else depth + 1
    room := if parts.isEmpty then stateRoom else parts.foldl (fun n a => n + a.room) 0 }

/-- The room of several parts to choose from; tests for one character share one. -/
def roomOfChoice (roomOf : CharSet → Nat) (parts : List Part) : Nat :=
  match parts.mapM fun a => a.pattern.test? with
  | some sets => roomOf (CharSet.unionAll sets)
  | none => parts.foldl (fun n a => n + 4 + a.room) (2 * stateRoom)

/-- The first of the parts that leads to a match; several of them are a level of their own. -/
def choice (roomOf : CharSet → Nat) : List Part → Part
  | [a] => a
  | parts =>
      { pattern := Pattern.choice (parts.map (·.pattern))
        depth := parts.foldl (fun d a => max d a.depth) 0 + 1
        room := roomOfChoice roomOf parts }

def repeated (greedy : Bool) (least : Nat) (most : Option Nat) (a : Part) : Part :=
  let (least, most) := a.pattern.bounds least most
  let room := repeatedRoom a.pattern.nullable least most a.room
  { pattern := if maxRoom < room then empty else a.pattern.repeated greedy least most
    depth := a.depth + 1
    room := room }

end Part

/-- What a group does besides holding its parts together. -/
inductive GroupKind where
  | plain
  /-- It notes its bounds. -/
  | noted
  /-- It is the token group. -/
  | token
  deriving DecidableEq, Repr

/-- A group that is being read. -/
structure Level where
  kind : GroupKind := .plain
  /-- The flags that hold again after it. -/
  flagsAfter : Flags := {}
  /-- The finished alternatives, latest first. -/
  branches : List Part := []
  /-- The parts of the current alternative, latest first; a flag setting is no part, but keeps its
  place. -/
  items : List (Option Part) := []

namespace Level

def push (l : Level) (a : Part) : Level := { l with items := some a :: l.items }

def split (l : Level) : Level :=
  { l with branches := Part.concat l.items.reverse :: l.branches, items := [] }

def content (l : Level) (roomOf : CharSet → Nat) : Part :=
  Part.choice roomOf (Part.concat l.items.reverse :: l.branches).reverse

def close (l : Level) (roomOf : CharSet → Nat) : Part :=
  let a := l.content roomOf
  match l.kind with
  | .plain => { a with depth := a.depth + 1 }
  | .noted => { a with depth := a.depth + 1, room := a.room + 2 * stateRoom }
  | .token => ⟨token a.pattern, a.depth + 1, a.room + 2 * stateRoom⟩

end Level

/-- What has been read of a pattern. -/
structure Reading where
  flags : Flags := {}
  names : List String := []
  level : Level := {}
  outer : List Level := []

def maxDepth : Nat := 250

/-- The largest number of rounds that can be written down. -/
def maxCount : Nat := 4294967295

namespace Reading

def push (r : Reading) (a : Part) : Reading := { r with level := r.level.push a }

/-- Adds a test for a set of characters. -/
def pushSet (r : Reading) (roomOf : CharSet → Nat) (s : CharSet) (depth : Nat) : Reading :=
  r.push ⟨char s, depth, roomOf s⟩

def openGroup (r : Reading) (kind : GroupKind) (flags : Flags) : Reading :=
  { r with
    flags := flags
    level := { kind, flagsAfter := r.flags }
    outer := r.level :: r.outer }

def closeGroup (r : Reading) (roomOf : CharSet → Nat) : Except PatternError Reading :=
  match r.outer with
  | [] => .error .unopenedGroup
  | o :: outer =>
      .ok { r with
        flags := r.level.flagsAfter
        level := o.push (r.level.close roomOf)
        outer := outer }

/-- Adds the part that an escape stands for. -/
def pushEscape (r : Reading) (roomOf : CharSet → Nat) : Escape → Reading
  | .literal c => r.pushSet roomOf (r.flags.literal c) 0
  | .set s => r.pushSet roomOf s 0
  | .look l => r.push { pattern := look l }

/-- Whether a character can stand in a group's name. -/
def isNameChar (first : Bool) (c : Char) : Bool :=
  c == '_' || c.isAlpha || Trait.alphabetic.mem c ||
    (!first && (c == '.' || c == '[' || c == ']' || Trait.numeric.mem c))

def isName : List Char → Bool
  | [] => false
  | c :: cs => isNameChar true c && cs.all (isNameChar false)

/-- Reads a group's name, from after its opening angle, and opens the group. -/
def openNamed (r : Reading) (cs : List Char) : Except PatternError (Reading × List Char) :=
  let name := cs.takeWhile (· != '>')
  match cs.dropWhile (· != '>') with
  | [] => .error .badGroupName
  | _ :: rest =>
      if !isName name then .error .badGroupName
      else
        let name := String.ofList name
        if r.names.contains name then .error .repeatedGroupName
        else
          let kind := if name == "t" then GroupKind.token else .noted
          .ok ({ r with names := name :: r.names }.openGroup kind r.flags, rest)

/-- Sets or clears the flag with a letter. -/
def setFlag (on : Bool) (flags : Flags) : Char → Except PatternError Flags
  | 'i' => .ok { flags with ignoreCase := on }
  | 'm' => .ok { flags with multiline := on }
  | 's' => .ok { flags with dotAll := on }
  | 'R' => .ok { flags with crlf := on }
  | 'U' => .ok { flags with swapGreed := on }
  | 'x' => .ok { flags with verbose := on }
  | 'u' => .ok { flags with asciiOnly := !on }
  | _ => .error .badFlag

/-- Reads flags up to a colon, which opens a group for them, or a closing parenthesis, which sets
them for the rest of the group; `seen` holds the letters read so far, and `on` is false after a
hyphen. -/
def readFlags (r : Reading) (on : Bool) (seen : List Char) (flags : Flags) :
    List Char → Except PatternError (Reading × List Char)
  | [] => .error .badFlag
  | ':' :: cs =>
      if seen.head? == some '-' then .error .badFlag else .ok (r.openGroup .plain flags, cs)
  | ')' :: cs =>
      if seen.isEmpty then .error .nothingToRepeat
      else if seen.head? == some '-' then .error .badFlag
      else .ok ({ r with flags, level := { r.level with items := none :: r.level.items } }, cs)
  | '-' :: cs => if on then readFlags r false ('-' :: seen) flags cs else .error .badFlag
  | c :: cs =>
      if seen.contains c then .error .badFlag
      else do readFlags r on (c :: seen) (← setFlag on flags c) cs

/-- Reads the start of a group, from after its parenthesis. -/
def readGroup (r : Reading) (cs : List Char) : Except PatternError (Reading × List Char) :=
  match skipIf r.flags.verbose cs with
  | '?' :: '=' :: _ => .error .lookAround
  | '?' :: '!' :: _ => .error .lookAround
  | '?' :: '<' :: '=' :: _ => .error .lookAround
  | '?' :: '<' :: '!' :: _ => .error .lookAround
  | '?' :: 'P' :: '<' :: cs => r.openNamed cs
  | '?' :: '<' :: cs => r.openNamed cs
  | '?' :: cs => r.readFlags true [] r.flags cs
  | cs => .ok (r.openGroup .noted r.flags, cs)

/-- Repeats the latest part, whose repetition has been read up to a question mark that makes it
lazy. -/
def repeatLast (r : Reading) (least : Nat) (most : Option Nat) (cs : List Char) :
    Except PatternError (Reading × List Char) :=
  match r.level.items with
  | some a :: items =>
      let lazy := cs.head? == some '?'
      let a := a.repeated (lazy == r.flags.swapGreed) least most
      .ok ({ r with level := { r.level with items := some a :: items } },
        if lazy then cs.drop 1 else cs)
  | _ => .error .nothingToRepeat

/-- Splits off the digits at the start, leaving out the layout after them. -/
def splitDigits (verbose : Bool) : Nat → List Char → List Char × List Char
  | 0, cs => ([], cs)
  | fuel + 1, cs =>
      match cs with
      | [] => ([], [])
      | c :: rest =>
          if c.isDigit then
            let (digits, rest) := splitDigits verbose fuel (skipIf verbose rest)
            (c :: digits, rest)
          else ([], cs)

/-- Reads a decimal number with blanks around it. -/
def readCount (verbose : Bool) (cs : List Char) : Except PatternError (Nat × List Char) :=
  let cs := cs.dropWhile Text.isBlank
  let (digits, rest) := splitDigits verbose cs.length cs
  let n := digits.foldl (fun n c => n * 10 + (c.toNat - '0'.toNat)) 0
  if digits.isEmpty || maxCount < n then .error .badCount
  else .ok (n, skipIf verbose (rest.dropWhile Text.isBlank))

/-- Reads a repetition in braces, from after the opening one. -/
def readCounted (r : Reading) (cs : List Char) : Except PatternError (Reading × List Char) := do
  let verbose := r.flags.verbose
  let (least, rest) ← readCount verbose (skipIf verbose cs)
  let (most, rest) ←
    match rest with
    | ',' :: rest =>
        match skipIf verbose rest with
        | '}' :: rest => pure (none, '}' :: rest)
        | rest => do
            let (n, rest) ← readCount verbose rest
            pure (some n, rest)
    | rest => pure (some least, rest)
  match rest with
  | '}' :: rest =>
      if most.any (· < least) then throw .badCount
      else r.repeatLast least most (skipIf verbose rest)
  | _ => throw .badCount

/-- Reads one part of a pattern, which starts with the character `c`. -/
def step (r : Reading) (roomOf : CharSet → Nat) (c : Char) (cs : List Char) :
    Except PatternError (Reading × List Char) :=
  match c with
  | '(' => r.readGroup cs
  | ')' => do return (← r.closeGroup roomOf, cs)
  | '|' => .ok ({ r with level := r.level.split }, cs)
  | '[' => do
      let (a, rest) ← readClass r.flags cs
      return (r.pushSet roomOf a.set a.depth, rest)
  | '?' => r.repeatLast 0 (some 1) cs
  | '*' => r.repeatLast 0 none cs
  | '+' => r.repeatLast 1 none cs
  | '{' => r.readCounted cs
  | '\\' => do
      let (e, rest) ← readEscape r.flags cs
      return (r.pushEscape roomOf e, rest)
  | '.' =>
      if r.flags.asciiOnly then .error .outsideAscii
      else .ok (r.pushSet roomOf r.flags.dot 0, cs)
  | '^' =>
      let l := if r.flags.multiline then Look.lineStart r.flags.crlf else .textStart
      .ok (r.push { pattern := look l }, cs)
  | '$' =>
      let l := if r.flags.multiline then Look.lineEnd r.flags.crlf else .textEnd
      .ok (r.push { pattern := look l }, cs)
  | c => .ok (r.pushEscape roomOf (.literal c), cs)

/-- Reads the rest of a pattern; every step takes at least one character. -/
def readAll (roomOf : CharSet → Nat) : Nat → Reading → List Char → Except PatternError Reading
  | 0, r, _ => .ok r
  | fuel + 1, r, cs =>
      match skipIf r.flags.verbose cs with
      | [] => .ok r
      | c :: cs => do
          let (r, rest) ← r.step roomOf c cs
          readAll roomOf fuel r rest

/-- The pattern that was read, when every group is closed and it is not too large. -/
def finish (r : Reading) (roomOf : CharSet → Nat) : Except PatternError Pattern :=
  match r.outer with
  | [] =>
      let a := r.level.content roomOf
      if maxDepth < a.depth then .error .nestedTooDeep
      else if maxRoom < a.room + baseRoom then .error .tooLarge
      else .ok a.pattern.number
  | _ => .error .unclosedGroup

end Reading

/-- Reads a pattern, where the test for a set takes up the room `roomOf`. -/
def ofChars (roomOf : CharSet → Nat) (cs : List Char) : Except PatternError Pattern := do
  (← Reading.readAll roomOf cs.length {} cs).finish roomOf

def ofString (s : String) : Except PatternError Pattern := ofChars CharSet.room s.toList

end Highlight.Pattern
