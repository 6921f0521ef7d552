/-!
# Lifetimes

Work for a surface is bound to the surface's lifetime: once the surface is torn down, work that has
not yet come to its end is dropped, and that is no failure.
-/

namespace Highlight

/-- Whether a surface is still there. -/
inductive Lifetime where
  | live
  | tornDown
  deriving DecidableEq, Repr

/-- How work that is bound to a lifetime ended. -/
inductive Bound (α : Type) where
  | ran (a : α)
  | dropped
  deriving DecidableEq, Repr

namespace Lifetime

/-- Whether the surface is still there, as a truth value. -/
def isLive : Lifetime → Bool
  | live => true
  | tornDown => false

/-- The end of work that has come to a result: the result counts only while the surface is there. -/
def guard {α : Type} : Lifetime → α → Bound α
  | live, a => .ran a
  | tornDown, _ => .dropped

def tearDownAt (ls : List Lifetime) (i : Nat) : List Lifetime := ls.set i .tornDown

/-- Whether the lifetime with a number is there; an unknown one is not. -/
def isLiveAt (ls : List Lifetime) (i : Nat) : Bool := ls[i]?.any isLive

end Lifetime

end Highlight
