import Highlight.ChangeSet

/-!
# Decorations

A decoration puts class labels on a half-open range of document positions.  A `DecorationSet` holds
the decorations of one snapshot in the order of their ranges and is carried to the next snapshot by
a change set.
-/

namespace Highlight

/-- The largest position that can be written down. -/
def maxPosition : Nat := 18446744073709551615

/-- A labelled range; labels are listed from the outermost scope inwards. -/
structure Decoration where
  start : Nat
  stop : Nat
  labels : List String
  deriving DecidableEq, Repr

/-- Moves a position by a signed amount; it stops at either end of the range of positions. -/
def shiftPos (p : Nat) (d : Int) : Nat := min ((p : Int) + d).toNat maxPosition

/-- How far it is from one position to another: a signed word, which is exact for all distances
below 2^63 and wraps around beyond them. -/
def distance (p q : Nat) : Int := Int.bmod ((q : Int) - p) (maxPosition + 1)

namespace Decoration

def className (d : Decoration) : String := " ".intercalate d.labels

def hasLabel (d : Decoration) (label : String) : Bool := d.labels.contains label

/-- The same labels on a range moved by `delta`. -/
def shifted (d : Decoration) (delta : Int) : Decoration :=
  { d with start := shiftPos d.start delta, stop := shiftPos d.stop delta }

def length (d : Decoration) : Nat := d.stop - d.start

def isEmpty (d : Decoration) : Bool := d.stop ≤ d.start

/-- The order by start, then by end. -/
def le (a b : Decoration) : Bool :=
  a.start < b.start || (a.start == b.start && a.stop ≤ b.stop)

/-- The decoration after a change, unless its content was deleted. -/
def map? (c : ChangeSet) (d : Decoration) : Option Decoration :=
  (c.mapRange d.start d.stop).map fun r => { d with start := r.1, stop := r.2 }

end Decoration

/-- The decorations of one snapshot. -/
structure DecorationSet where
  toList : List Decoration := []
  deriving DecidableEq, Repr

namespace DecorationSet

/-- Orders the decorations by their ranges; those with equal ranges keep their order. -/
def ofList (ds : List Decoration) : DecorationSet := ⟨ds.mergeSort Decoration.le⟩

def size (s : DecorationSet) : Nat := s.toList.length

def isEmpty (s : DecorationSet) : Bool := s.toList.isEmpty

/-- The decorations after a change: each is carried across, and those whose content was deleted go.
A change that moves nothing leaves the set alone. -/
def map (s : DecorationSet) (c : ChangeSet) : DecorationSet :=
  if c.isIdentity then s else ⟨s.toList.filterMap (Decoration.map? c)⟩

end DecorationSet

end Highlight
