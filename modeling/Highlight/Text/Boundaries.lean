/-!
# Sets of code points by their boundaries

A set of code points is written as the ascending list of the points where membership changes,
starting outside of it.  A point belongs to the set when an odd number of boundaries is at or below
it.
-/

namespace Highlight.Text

/-- The number of boundaries at or below `n`, when it lies between `lo` and `hi`; each unit of fuel
halves the distance. -/
def countUpTo (bs : Array Nat) (n : Nat) : Nat → Nat → Nat → Nat
  | 0, lo, _ => lo
  | fuel + 1, lo, hi =>
      if hi ≤ lo then lo
      else
        let mid := (lo + hi) / 2
        if bs.getD mid 0 ≤ n then countUpTo bs n fuel (mid + 1) hi
        else countUpTo bs n fuel lo mid

/-- Whether a code point is in the set with these boundaries. -/
def within (bs : Array Nat) (n : Nat) : Bool :=
  countUpTo bs n (bs.size + 1).log2.succ 0 bs.size % 2 == 1

/-- The boundaries of a combination of two sets: `f` says whether a point belongs to it, from
whether it belongs to either.  `inA`, `inB` and `inC` say so of the points right before, and each
boundary takes up a unit of fuel. -/
def combineFrom (f : Bool → Bool → Bool) :
    Nat → (inA inB inC : Bool) → List Nat → List Nat → List Nat
  | 0, _, _, _, _, _ => []
  | _, _, _, _, [], [] => []
  | fuel + 1, inA, inB, inC, a :: as, [] =>
      let next := f (!inA) inB
      let rest := combineFrom f fuel (!inA) inB next as []
      if next == inC then rest else a :: rest
  | fuel + 1, inA, inB, inC, [], b :: bs =>
      let next := f inA (!inB)
      let rest := combineFrom f fuel inA (!inB) next [] bs
      if next == inC then rest else b :: rest
  | fuel + 1, inA, inB, inC, a :: as, b :: bs =>
      if a < b then
        let next := f (!inA) inB
        let rest := combineFrom f fuel (!inA) inB next as (b :: bs)
        if next == inC then rest else a :: rest
      else if b < a then
        let next := f inA (!inB)
        let rest := combineFrom f fuel inA (!inB) next (a :: as) bs
        if next == inC then rest else b :: rest
      else
        let next := f (!inA) (!inB)
        let rest := combineFrom f fuel (!inA) (!inB) next as bs
        if next == inC then rest else a :: rest

def combine (f : Bool → Bool → Bool) (as bs : List Nat) : List Nat :=
  combineFrom f (as.length + bs.length) false false false as bs

def union (as bs : List Nat) : List Nat := combine (· || ·) as bs

def ofPoints (ns : List Nat) : List Nat := ns.foldr (fun n bs => union [n, n + 1] bs) []

end Highlight.Text
