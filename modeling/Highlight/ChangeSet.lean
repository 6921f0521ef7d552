/-!
# Change sets

A change set says how the positions of one document snapshot turn into those of the next: a list of
runs that keep, delete or insert positions.  Runs are added at the end, one by one, and stay in a
normal form: neighbours of one kind are merged, and an insertion stands before the deletion it
touches.  `mapPos` carries a position across, and a `Bias` decides on which side of an insertion
a position at its very place ends up.
-/

namespace Highlight

/-- The side of an insertion on which a position at its place ends up. -/
inductive Bias where
  | left
  | right
  deriving DecidableEq, Repr

/-- One step of a change set; only lengths are known, not texts. -/
inductive Run where
  | retain (n : Nat)
  | delete (n : Nat)
  | insert (n : Nat)
  deriving DecidableEq, Repr

namespace Run

def isRetain : Run → Bool
  | retain _ => true
  | _ => false

end Run

/-- Runs in document order, with the sizes of the two snapshots they lie between. -/
structure ChangeSet where
  runs : List Run := []
  sizeBefore : Nat := 0
  sizeAfter : Nat := 0
  deriving DecidableEq, Repr

namespace ChangeSet

/-- Adds a retained length at the end; retained neighbours merge. -/
def addRetain (n : Nat) : List Run → List Run
  | [] => [.retain n]
  | [.retain m] => [.retain (m + n)]
  | r :: rs => r :: addRetain n rs

/-- Adds a deleted length at the end; deleted neighbours merge. -/
def addDelete (n : Nat) : List Run → List Run
  | [] => [.delete n]
  | [.delete m] => [.delete (m + n)]
  | r :: rs => r :: addDelete n rs

/-- Adds an inserted length at the end, in front of a deletion that stands there. -/
def addInsert (n : Nat) : List Run → List Run
  | [] => [.insert n]
  | [.insert m] => [.insert (m + n)]
  | [.insert m, .delete d] => [.insert (m + n), .delete d]
  | [.delete d] => [.insert n, .delete d]
  | r :: rs => r :: addInsert n rs

/-- The change set of nothing. -/
def empty : ChangeSet := {}

def retain (c : ChangeSet) (n : Nat) : ChangeSet :=
  if n = 0 then c
  else ⟨addRetain n c.runs, c.sizeBefore + n, c.sizeAfter + n⟩

def delete (c : ChangeSet) (n : Nat) : ChangeSet :=
  if n = 0 then c
  else ⟨addDelete n c.runs, c.sizeBefore + n, c.sizeAfter⟩

def insert (c : ChangeSet) (n : Nat) : ChangeSet :=
  if n = 0 then c
  else ⟨addInsert n c.runs, c.sizeBefore, c.sizeAfter + n⟩

def add (c : ChangeSet) : Run → ChangeSet
  | .retain n => c.retain n
  | .delete n => c.delete n
  | .insert n => c.insert n

/-- The change set that a list of calls builds from nothing. -/
def ofRuns (rs : List Run) : ChangeSet := rs.foldl add empty

/-- Keeps a document of the given size as it is. -/
def identity (size : Nat) : ChangeSet := empty.retain size

def isEmpty (c : ChangeSet) : Bool := c.runs.isEmpty

def isIdentity (c : ChangeSet) : Bool := c.runs.all Run.isRetain

/-- Where the position `p`, counted from the first run's place, ends up; a position in a deleted run
goes to where the deletion starts. -/
def mapThrough (bias : Bias) : List Run → Nat → Nat
  | [], p => p
  | .retain n :: rs, p => if p < n then p else n + mapThrough bias rs (p - n)
  | .delete n :: rs, p => if p < n then 0 else mapThrough bias rs (p - n)
  | .insert n :: rs, p =>
      if p = 0 ∧ bias = .left then mapThrough bias rs p else n + mapThrough bias rs p

def mapPos (c : ChangeSet) (bias : Bias) (p : Nat) : Nat := mapThrough bias c.runs p

/-- The new place of a half-open range; insertions at its edges stay outside, and a range whose
content is gone has none. -/
def mapRange (c : ChangeSet) (start stop : Nat) : Option (Nat × Nat) :=
  let a := c.mapPos .right start
  let b := c.mapPos .left stop
  if a < b then some (a, b) else none

end ChangeSet

end Highlight
