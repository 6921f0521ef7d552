import Highlight.Pattern.Escape

/-!
# Bracketed classes

Reads a class such as `[^a-z\d&&[[:alpha:]]]` into a set of characters.  Classes nest; between
operands stand intersection, difference and symmetric difference, which bind from left to right and
weaker than listing.
-/

namespace Highlight.Pattern

/-- An operation between two sets. -/
inductive SetOp where
  | inter
  | diff
  | symmDiff
  deriving DecidableEq, Repr

def SetOp.apply : SetOp → CharSet → CharSet → CharSet
  | inter => CharSet.inter
  | diff => CharSet.diff
  | symmDiff => CharSet.symmDiff

/-- A set that has been read, with the number of levels that its written form has. -/
structure ClassPart where
  set : CharSet
  depth : Nat := 0

/-- A class that is being read. -/
structure OpenClass where
  negated : Bool
  /-- The operation to apply, with its left operand. -/
  left : Option (SetOp × ClassPart) := none
  /-- The members of the current operand, latest first. -/
  items : List ClassPart := []

namespace OpenClass

def push (k : OpenClass) (a : ClassPart) : OpenClass := { k with items := a :: k.items }

/-- The set listed by the current operand; a list of several members is a level of its own. -/
def listed (k : OpenClass) : ClassPart :=
  match k.items.reverse with
  | [] => ⟨.empty, 0⟩
  | [a] => a
  | a :: as =>
      as.foldl (fun l a => ⟨.union l.set a.set, max l.depth (a.depth + 1)⟩) ⟨a.set, a.depth + 1⟩

/-- The set read so far, before negation; an operation is a level of its own. -/
def operand (f : Flags) (k : OpenClass) : ClassPart :=
  match k.left with
  | none => k.listed
  | some (op, l) =>
      ⟨op.apply (f.fold l.set) (f.fold k.listed.set), max l.depth k.listed.depth + 1⟩

def operate (f : Flags) (k : OpenClass) (op : SetOp) : OpenClass :=
  { k with left := some (op, k.operand f), items := [] }

def close (f : Flags) (k : OpenClass) : Except PatternError ClassPart :=
  let a := k.operand f
  if k.negated && f.asciiOnly then .error .outsideAscii
  else .ok ⟨CharSet.negateIf k.negated (f.fold a.set), a.depth + 1⟩

end OpenClass

/-- Splits the name of a named set, and whether it is negated, from the rest, after its opening
bracket. -/
def splitAsciiClass? : List Char → Option (Bool × CharSet × List Char)
  | ':' :: cs =>
      let negated := cs.head? == some '^'
      let cs := if negated then cs.drop 1 else cs
      match cs.dropWhile (· != ':') with
      | ':' :: ']' :: rest =>
          (asciiClass? (String.ofList (cs.takeWhile (· != ':')))).map fun s => (negated, s, rest)
      | _ => none
  | _ => none

/-- Takes hyphens at the start of a class as members. -/
def readHyphens (verbose : Bool) : Nat → OpenClass → List Char → OpenClass × List Char
  | 0, k, cs => (k, cs)
  | fuel + 1, k, cs =>
      match cs with
      | '-' :: rest => readHyphens verbose fuel (k.push ⟨.single '-', 0⟩) (skipIf verbose rest)
      | cs => (k, cs)

/-- Opens a class, from after its bracket: a caret negates it, and hyphens and, without any, a
closing bracket at the start are members. -/
def openClass (verbose : Bool) (cs : List Char) : OpenClass × List Char :=
  let cs := skipIf verbose cs
  let negated := cs.head? == some '^'
  let cs := if negated then skipIf verbose (cs.drop 1) else cs
  let (k, cs) := readHyphens verbose cs.length { negated } cs
  match cs with
  | ']' :: rest => if k.items.isEmpty then (k.push ⟨.single ']', 0⟩, rest) else (k, cs)
  | cs => (k, cs)

/-- Reads one member that may start a range. -/
def readMember (f : Flags) (cs : List Char) : Except PatternError (Escape × List Char) := do
  let (e, rest) ←
    match cs with
    | [] => throw .unclosedClass
    | '\\' :: cs => readEscape f cs
    | c :: cs => pure (.literal c, cs)
  match e with
  | .literal c => if f.asciiOnly && 128 ≤ c.val then throw .outsideAscii else return (e, rest)
  | _ => return (e, rest)

/-- Reads one member or range into a set. -/
def readRange (f : Flags) (cs : List Char) : Except PatternError (CharSet × List Char) := do
  let (first, rest) ← readMember f cs
  let rest := skipIf f.verbose rest
  let isRange :=
    match rest with
    | '-' :: after =>
        let next := afterHyphen f.verbose after
        next != some ']' && next != some '-'
    | _ => false
  if isRange then
    let (last, rest) ← readMember f (skipIf f.verbose (rest.drop 1))
    match first, last with
    | .literal a, .literal b =>
        if a ≤ b then return (.range a b, rest) else throw .badRange
    | _, _ => throw .badRange
  else
    match first with
    | .literal c => return (.single c, rest)
    | .set s => return (s, rest)
    | .look _ => throw .badClassEscape

/-- Reads the classes that are open, the innermost one first, up to the end of the outermost. -/
def readClasses (f : Flags) :
    Nat → OpenClass → List OpenClass → List Char → Except PatternError (ClassPart × List Char)
  | 0, _, _, _ => .error .unclosedClass
  | fuel + 1, k, outer, cs =>
      match skipIf f.verbose cs with
      | [] => .error .unclosedClass
      | '[' :: rest =>
          match splitAsciiClass? rest with
          | some (negated, s, rest) =>
              if negated && f.asciiOnly then .error .outsideAscii
              else
                readClasses f fuel (k.push ⟨CharSet.negateIf negated (f.fold s), 0⟩) outer rest
          | none =>
              let (inner, rest) := openClass f.verbose rest
              readClasses f fuel inner (k :: outer) rest
      | ']' :: rest => do
          let a ← k.close f
          match outer with
          | [] => return (a, rest)
          | o :: outer => readClasses f fuel (o.push a) outer rest
      | '&' :: '&' :: rest => readClasses f fuel (k.operate f .inter) outer rest
      | '-' :: '-' :: rest => readClasses f fuel (k.operate f .diff) outer rest
      | '~' :: '~' :: rest => readClasses f fuel (k.operate f .symmDiff) outer rest
      | cs => do
          let (s, rest) ← readRange f cs
          readClasses f fuel (k.push ⟨s, 0⟩) outer rest

/-- Reads a class, from after its opening bracket. -/
def readClass (f : Flags) (cs : List Char) : Except PatternError (ClassPart × List Char) :=
  let (k, rest) := openClass f.verbose cs
  readClasses f (rest.length + 1) k [] rest

end Highlight.Pattern
