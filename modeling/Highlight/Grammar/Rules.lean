import Highlight.Grammar.Basic
import Highlight.Pattern.Reader

/-!
# Rule trees

A rule tree is a named list of rules, each a label and a pattern; a rule may have a tree of its own
for the text it matches, or hand that text to the root of the whole tree, and a tree may hand the
text between its matches to the root.  Written trees hold their patterns as texts; `compile` reads
all of them, and fails at the first one that is no pattern.
-/

namespace Highlight

mutual

/-- A list of labelled rules over patterns of type `P`. -/
inductive RuleTree (P : Type) where
  | mk (name : String) (rules : List (Rule P)) (restToRoot : Bool)

/-- A label for the matches of a pattern. -/
inductive Rule (P : Type) where
  | mk (label : String) (pattern : P) (inside : Inside P)

/-- What becomes of the text that a rule matches. -/
inductive Inside (P : Type) where
  /-- It is one token. -/
  | token
  /-- It is classified by a tree of its own. -/
  | nested (tree : RuleTree P)
  /-- It is classified by the root of the whole tree. -/
  | root

end

namespace Rule

variable {P : Type}

def label : Rule P → String
  | mk l _ _ => l

def pattern : Rule P → P
  | mk _ p _ => p

def inside : Rule P → Inside P
  | mk _ _ i => i

end Rule

namespace RuleTree

variable {P : Type}

def name : RuleTree P → String
  | mk n _ _ => n

def rules : RuleTree P → List (Rule P)
  | mk _ rs _ => rs

/-- Whether the text between matches is classified by the root. -/
def restToRoot : RuleTree P → Bool
  | mk _ _ r => r

def named (name : String) : RuleTree P := mk name [] false

instance : Inhabited (RuleTree P) := ⟨named ""⟩

def addRules (t : RuleTree P) (rs : List (Rule P)) : RuleTree P :=
  mk t.name (t.rules ++ rs) t.restToRoot

def rule (t : RuleTree P) (label : String) (pattern : P) : RuleTree P :=
  t.addRules [.mk label pattern .token]

/-- Adds a rule whose matches are classified by a tree of their own. -/
def nest (t : RuleTree P) (label : String) (pattern : P) (inside : RuleTree P) : RuleTree P :=
  t.addRules [.mk label pattern (.nested inside)]

/-- Adds a rule whose matches are classified by the root. -/
def nestRoot (t : RuleTree P) (label : String) (pattern : P) : RuleTree P :=
  t.addRules [.mk label pattern .root]

/-- Hands the text between matches to the root. -/
def withRestToRoot (t : RuleTree P) : RuleTree P := mk t.name t.rules true

end RuleTree

/-- A rule tree as it is written. -/
abbrev RuleSource := RuleTree String

/-- A rule tree ready for use. -/
abbrev RuleGrammar := RuleTree Pattern

mutual

def RuleTree.compile : RuleSource → Except GrammarError RuleGrammar
  | .mk name rules restToRoot =>
      match compileRules name rules with
      | .error e => .error e
      | .ok rules => .ok (.mk name rules restToRoot)

/-- Reads the patterns of the rules of the tree with the given name: for each rule its own, then
those of its inside. -/
def compileRules (grammar : String) : List (Rule String) → Except GrammarError (List (Rule Pattern))
  | [] => .ok []
  | r :: rs =>
      match Rule.compile grammar r with
      | .error e => .error e
      | .ok r =>
          match compileRules grammar rs with
          | .error e => .error e
          | .ok rs => .ok (r :: rs)

/-- Reads a rule's pattern, then those of its inside. -/
def Rule.compile (grammar : String) : Rule String → Except GrammarError (Rule Pattern)
  | .mk label pattern inside =>
      match Pattern.ofString pattern with
      | .error _ => .error (.invalidPattern grammar label)
      | .ok pattern =>
          match Inside.compile inside with
          | .error e => .error e
          | .ok inside => .ok (.mk label pattern inside)

/-- Reads the patterns of what is inside a rule. -/
def Inside.compile : Inside String → Except GrammarError (Inside Pattern)
  | .token => .ok .token
  | .nested tree =>
      match RuleTree.compile tree with
      | .error e => .error e
      | .ok tree => .ok (.nested tree)
  | .root => .ok .root

end

end Highlight
