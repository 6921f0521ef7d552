import Highlight.Grammar.Rules

/-!
# The patterns of a tree

`patterns` lists the patterns of a tree in the order in which they are read: for each rule its own,
then those of the tree inside it.
-/

namespace Highlight

variable {P : Type}

mutual

def RuleTree.patterns : RuleTree P → List P
  | .mk _ rules _ => patternsOf rules

def patternsOf : List (Rule P) → List P
  | [] => []
  | r :: rs => r.patterns ++ patternsOf rs

def Rule.patterns : Rule P → List P
  | .mk _ pattern inside => pattern :: inside.patterns

def Inside.patterns : Inside P → List P
  | .token => []
  | .nested tree => tree.patterns
  | .root => []

end

theorem mem_patternsOf {rs : List (Rule P)} {r : Rule P} (hr : r ∈ rs) {a : P}
    (ha : a ∈ r.patterns) : a ∈ patternsOf rs := by
  induction rs with
  | nil => simp at hr
  | cons s rs ih =>
      rw [patternsOf, List.mem_append]
      rcases List.mem_cons.mp hr with rfl | hr
      · exact Or.inl ha
      · exact Or.inr (ih hr)

namespace RuleTree

variable {tree : RuleTree P} {r : Rule P}

theorem mem_patterns (hr : r ∈ tree.rules) {a : P} (ha : a ∈ r.patterns) : a ∈ tree.patterns := by
  cases tree with
  | mk name rules rest => exact mem_patternsOf hr ha

theorem pattern_mem_patterns (hr : r ∈ tree.rules) : r.pattern ∈ tree.patterns := by
  refine mem_patterns hr ?_
  cases r
  exact List.mem_cons_self

theorem nested_patterns_subset {inner : RuleTree P} (hr : r ∈ tree.rules)
    (hinside : r.inside = .nested inner) {a : P} (ha : a ∈ inner.patterns) : a ∈ tree.patterns := by
  refine mem_patterns hr ?_
  cases r with
  | mk label pattern inside =>
      obtain rfl : inside = .nested inner := hinside
      exact List.mem_cons_of_mem _ ha

end RuleTree

end Highlight
