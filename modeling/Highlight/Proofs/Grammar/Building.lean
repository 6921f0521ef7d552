import Highlight.Proofs.Grammar.Readable

/-!
# The first bad pattern

Compiling a tree goes through its rules in order and reads for each its own pattern and then those
of the whole tree inside it.  `owned` lists the patterns so, each with the label of its rule and the
name of the tree that the rule belongs to.  The outcome is settled by this list alone: the first
pattern that cannot be read is the error, and without any the tree stays as it is, with its patterns
read.
-/

namespace Highlight

/-- A pattern with the label of its rule and the name of the tree that the rule belongs to. -/
structure OwnedPattern (P : Type) where
  grammar : String
  label : String
  pattern : P

section

variable {P : Type}

mutual

def RuleTree.owned : RuleTree P → List (OwnedPattern P)
  | .mk name rules _ => ownedBy name rules

def ownedBy (grammar : String) : List (Rule P) → List (OwnedPattern P)
  | [] => []
  | r :: rs => r.owned grammar ++ ownedBy grammar rs

def Rule.owned (grammar : String) : Rule P → List (OwnedPattern P)
  | .mk label pattern inside => ⟨grammar, label, pattern⟩ :: inside.owned

def Inside.owned : Inside P → List (OwnedPattern P)
  | .token => []
  | .nested tree => tree.owned
  | .root => []

end

end

open Pattern (Reads read ofString)

namespace OwnedPattern

/-- The error of a pattern that cannot be read. -/
def fault? (o : OwnedPattern String) : Option GrammarError :=
  match ofString o.pattern with
  | .ok _ => none
  | .error _ => some (.invalidPattern o.grammar o.label)

theorem fault?_eq_none_iff {o : OwnedPattern String} : o.fault? = none ↔ Reads o.pattern := by
  unfold fault?
  constructor
  · intro h
    cases hread : ofString o.pattern with
    | ok a => exact ⟨a, hread⟩
    | error e => simp [hread] at h
  · intro h
    rw [h.ofString_eq]

theorem fault?_eq_some_iff {o : OwnedPattern String} {e : GrammarError} :
    o.fault? = some e ↔ ¬ Reads o.pattern ∧ e = .invalidPattern o.grammar o.label := by
  rw [← fault?_eq_none_iff, fault?]
  cases ofString o.pattern with
  | ok a => simp
  | error e' => simp [eq_comm]

end OwnedPattern

/-- What comes of patterns: the error of the first one that cannot be read, or else the result. -/
def settle {A : Type} (os : List (OwnedPattern String)) (result : A) : Except GrammarError A :=
  match os.findSome? OwnedPattern.fault? with
  | some e => .error e
  | none => .ok result

theorem settle_eq_ok_iff {A : Type} {os : List (OwnedPattern String)} {result x : A} :
    settle os result = .ok x ↔ (∀ o ∈ os, Reads o.pattern) ∧ x = result := by
  have hnone : os.findSome? OwnedPattern.fault? = none ↔ ∀ o ∈ os, Reads o.pattern := by
    simp only [List.findSome?_eq_none_iff, OwnedPattern.fault?_eq_none_iff]
  rw [← hnone, settle]
  cases os.findSome? OwnedPattern.fault? with
  | none => simp [eq_comm]
  | some e => simp

theorem settle_eq_error_iff {A : Type} {os : List (OwnedPattern String)} {result : A}
    {e : GrammarError} :
    settle os result = .error e ↔ ∃ before o after, os = before ++ o :: after ∧
      (∀ b ∈ before, Reads b.pattern) ∧ ¬ Reads o.pattern ∧
        e = .invalidPattern o.grammar o.label := by
  have hsome : settle os result = .error e ↔ os.findSome? OwnedPattern.fault? = some e := by
    rw [settle]
    cases os.findSome? OwnedPattern.fault? with
    | none => simp
    | some e' => simp
  rw [hsome, List.findSome?_eq_some_iff]
  simp only [OwnedPattern.fault?_eq_none_iff, OwnedPattern.fault?_eq_some_iff]
  constructor
  · rintro ⟨before, o, after, hos, hbad, hbefore⟩
    exact ⟨before, o, after, hos, hbefore, hbad⟩
  · rintro ⟨before, o, after, hos, hbefore, hbad⟩
    exact ⟨before, o, after, hos, hbad, hbefore⟩

mutual

theorem RuleTree.compile_eq_settle : ∀ t : RuleSource, t.compile = settle t.owned (t.map read)
  | .mk name rules restToRoot => by
      rw [RuleTree.compile, compileRules_eq_settle name rules, RuleTree.owned, settle, settle]
      cases (ownedBy name rules).findSome? OwnedPattern.fault? <;> rfl

theorem compileRules_eq_settle (grammar : String) : ∀ rs : List (Rule String),
    compileRules grammar rs = settle (ownedBy grammar rs) (mapRules read rs)
  | [] => rfl
  | r :: rs => by
      rw [compileRules, r.compile_eq_settle grammar, compileRules_eq_settle grammar rs, ownedBy,
        settle, settle, settle, List.findSome?_append]
      cases (r.owned grammar).findSome? OwnedPattern.fault? with
      | some e => rfl
      | none => cases (ownedBy grammar rs).findSome? OwnedPattern.fault? <;> rfl

theorem Rule.compile_eq_settle (grammar : String) : ∀ r : Rule String,
    r.compile grammar = settle (r.owned grammar) (r.map read)
  | .mk label pattern inside => by
      rw [Rule.compile, inside.compile_eq_settle, Rule.owned, settle, settle, List.findSome?_cons,
        OwnedPattern.fault?, Rule.map, Pattern.read]
      cases ofString pattern with
      | error e => rfl
      | ok a => cases inside.owned.findSome? OwnedPattern.fault? <;> rfl

theorem Inside.compile_eq_settle : ∀ i : Inside String, i.compile = settle i.owned (i.map read)
  | .token => rfl
  | .nested tree => by
      rw [Inside.compile, tree.compile_eq_settle, Inside.owned, settle, settle]
      cases tree.owned.findSome? OwnedPattern.fault? <;> rfl
  | .root => rfl

end

mutual

theorem RuleTree.map_pattern_owned : ∀ t : RuleSource, t.owned.map (·.pattern) = t.patterns
  | .mk name rules _ => map_pattern_ownedBy name rules

theorem map_pattern_ownedBy (grammar : String) : ∀ rs : List (Rule String),
    (ownedBy grammar rs).map (·.pattern) = patternsOf rs
  | [] => rfl
  | r :: rs => by
      rw [ownedBy, patternsOf, List.map_append, r.map_pattern_owned grammar,
        map_pattern_ownedBy grammar rs]

theorem Rule.map_pattern_owned (grammar : String) : ∀ r : Rule String,
    (r.owned grammar).map (·.pattern) = r.patterns
  | .mk label pattern inside => by
      rw [Rule.owned, Rule.patterns, List.map_cons, inside.map_pattern_owned]

theorem Inside.map_pattern_owned : ∀ i : Inside String, i.owned.map (·.pattern) = i.patterns
  | .token => rfl
  | .nested tree => tree.map_pattern_owned
  | .root => rfl

end

theorem RuleTree.compile_eq (t : RuleSource) (h : ∀ s ∈ t.patterns, Reads s) :
    t.compile = .ok (t.map read) := by
  rw [t.compile_eq_settle, settle_eq_ok_iff]
  refine ⟨fun o ho => h _ ?_, rfl⟩
  rw [← t.map_pattern_owned]
  exact List.mem_map_of_mem ho

section

variable {P Q R : Type} (f : P → Q) (g : Q → R)

mutual

theorem RuleTree.map_map : ∀ t : RuleTree P, (t.map f).map g = t.map (g ∘ f)
  | .mk name rules restToRoot => by
      rw [RuleTree.map, RuleTree.map, RuleTree.map, mapRules_mapRules rules]

theorem mapRules_mapRules : ∀ rs : List (Rule P),
    mapRules g (mapRules f rs) = mapRules (g ∘ f) rs
  | [] => rfl
  | r :: rs => by rw [mapRules, mapRules, mapRules, r.map_map, mapRules_mapRules rs]

theorem Rule.map_map : ∀ r : Rule P, (r.map f).map g = r.map (g ∘ f)
  | .mk label pattern inside => by
      rw [Rule.map, Rule.map, Rule.map, inside.map_map, Function.comp_apply]

theorem Inside.map_map : ∀ i : Inside P, (i.map f).map g = i.map (g ∘ f)
  | .token => rfl
  | .nested tree => by rw [Inside.map, Inside.map, Inside.map, tree.map_map]
  | .root => rfl

end

end

namespace RuleTree

/-- A tree can be compiled if and only if all patterns in it can be read, those of the trees inside
it included.  Then what comes of it is the same tree, names, labels and the order of the rules
included, with each pattern read.  Otherwise the error names the first pattern that cannot be read
in the order that goes through the rules and visits for each its own pattern and then the whole tree
inside it, by the label of its rule and the name of the tree that the rule belongs to. -/
theorem building_fails_at_the_first_bad_pattern (t : RuleSource) :
    ((∃ g, t.compile = .ok g) ↔ ∀ o ∈ t.owned, Reads o.pattern) ∧
    (∀ g, t.compile = .ok g → g = t.map read ∧ g.map (fun _ => ()) = t.map (fun _ => ())) ∧
    ∀ e, t.compile = .error e ↔ ∃ before o after, t.owned = before ++ o :: after ∧
      (∀ b ∈ before, Reads b.pattern) ∧ ¬ Reads o.pattern ∧
        e = .invalidPattern o.grammar o.label := by
  simp only [t.compile_eq_settle, settle_eq_ok_iff]
  refine ⟨⟨fun ⟨_, hreads, _⟩ => hreads, fun hreads => ⟨_, hreads, rfl⟩⟩, ?_,
    fun _ => settle_eq_error_iff⟩
  rintro g ⟨-, rfl⟩
  exact ⟨rfl, t.map_map read fun _ => ()⟩

end RuleTree

end Highlight
