import Highlight.Surface.Lifetime

/-!
# Errands

An errand sleeps, may tear its own lifetime down, and then reports twice its value, all bound to one
lifetime.  `runAll` lets many errands run side by side on a virtual clock while lifetimes are torn
down at given times; a teardown comes before the errands that are due at its time.
-/

namespace Highlight

/-- A piece of work that sleeps and then reports a value. -/
structure Errand where
  delay : Nat
  value : Nat
  lifetime : Nat
  /-- Whether it tears its lifetime down after its sleep. -/
  tearsDown : Bool := false
  deriving DecidableEq, Repr

/-- What an errand reports, and when. -/
structure Report where
  value : Nat
  time : Nat
  deriving DecidableEq, Repr

namespace Errand

/-- Errands under way, with the numbers under which their ends are noted. -/
structure Round where
  lifetimes : List Lifetime
  pending : List (Nat × Errand)
  ends : List (Nat × Bound Report) := []

/-- Deals with one errand at a time: it is dropped, comes to its end, or goes on sleeping. -/
def Round.visit (now : Nat) (r : Round) (e : Nat × Errand) : Round :=
  if !Lifetime.isLiveAt r.lifetimes e.2.lifetime then
    { r with ends := (e.1, .dropped) :: r.ends }
  else if e.2.delay ≤ now then
    let lifetimes :=
      if e.2.tearsDown then Lifetime.tearDownAt r.lifetimes e.2.lifetime else r.lifetimes
    let l := lifetimes.getD e.2.lifetime .tornDown
    { r with lifetimes, ends := (e.1, l.guard ⟨2 * e.2.value, now⟩) :: r.ends }
  else { r with pending := r.pending ++ [e] }

/-- Deals with all errands under way at a time. -/
def Round.visitAll (now : Nat) (r : Round) : Round :=
  r.pending.foldl (Round.visit now) { r with pending := [] }

def Round.tearDown (teardowns : List (Nat × Nat)) (now : Nat) (r : Round) : Round :=
  { r with
    lifetimes :=
      (teardowns.filter (·.1 == now)).foldl (fun ls t => Lifetime.tearDownAt ls t.2) r.lifetimes }

/-- Teardowns happen in the order of their list: none is earlier than the one before it. -/
def inOrder : Nat → List (Nat × Nat) → List (Nat × Nat)
  | _, [] => []
  | time, t :: ts => (max time t.1, t.2) :: inOrder (max time t.1) ts

/-- The times at which something may happen, in order. -/
def times (teardowns : List (Nat × Nat)) (errands : List Errand) : List Nat :=
  ((teardowns.map Prod.fst ++ errands.map Errand.delay).mergeSort (· ≤ ·)).eraseReps

/-- Lets errands run under lifetimes that are torn down at given times; gives the ends of the
errands and the lifetimes afterwards. -/
def runAll (lifetimes : Nat) (errands : List Errand) (teardowns : List (Nat × Nat)) :
    List (Bound Report) × List Lifetime :=
  let teardowns := inOrder 0 teardowns
  let start : Round := {
    lifetimes := List.replicate lifetimes .live
    pending := (List.range errands.length).zip errands }
  let final := (times teardowns errands).foldl
    (fun r now => (r.tearDown teardowns now).visitAll now) start
  ((List.range errands.length).map fun i => (final.ends.lookup i).getD .dropped, final.lifetimes)

end Errand

end Highlight
