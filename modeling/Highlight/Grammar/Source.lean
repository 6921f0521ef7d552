import Highlight.Builtin

/-!
# Where grammars come from

A grammar is built in, written as a rule tree, or fixed: a fixed grammar gives the same answer for
every text.
-/

namespace Highlight

/-- The answer of a fixed grammar. -/
inductive FixedAnswer where
  | tokens (ts : List Token)
  | tooManyTokens
  | nestingTooDeep
  | crash
  deriving DecidableEq, Repr

/-- A grammar that pays no regard to the text; the limits in its failures are those of the call. -/
def Grammar.fixed (name : String) (answer : FixedAnswer) : Grammar where
  name := name
  tokenize _ limits :=
    match answer with
    | .tokens ts => .ok ts
    | .tooManyTokens => .error (.tooManyTokens limits.maxTokens)
    | .nestingTooDeep => .error (.nestingTooDeep limits.maxDepth)
    | .crash => .error .crashed

/-- How a grammar is given. -/
inductive GrammarSource where
  | builtin (tag : String)
  | rules (tree : RuleSource)
  | fixed (name : String) (answer : FixedAnswer)

/-- The grammar that is given; there is none when a tag has no built-in grammar. -/
def GrammarSource.load? : GrammarSource → Option (Except GrammarError Grammar)
  | builtin tag => (Builtin.rules? tag).map fun r => r.map RuleTree.toGrammar
  | rules tree => some (tree.compile.map RuleTree.toGrammar)
  | fixed name answer => some (.ok (Grammar.fixed name answer))

end Highlight
