/-!
# Grammars and tokens

A grammar classifies a text into labelled tokens.  `Grammar.check` is the barrier between grammars
and documents: it lets a list of tokens pass only if they are non-empty, inside the text, in order
and apart from one another, and not more than allowed.
-/

namespace Highlight

/-- A classified span of a text, in characters from its start; labels are listed from the outermost
scope inwards. -/
structure Token where
  start : Nat
  stop : Nat
  labels : List String
  deriving DecidableEq, Repr

/-- Bounds on the tokens of one region. -/
structure Limits where
  maxTokens : Nat := 100000
  maxDepth : Nat := 8
  deriving DecidableEq, Repr

/-- Why a text has no tokens. -/
inductive TokenizeError where
  | tooManyTokens (limit : Nat)
  | nestingTooDeep (limit : Nat)
  /-- The grammar gave a token that is out of order or out of bounds. -/
  | malformedOutput (grammar : String) (index : Nat)
  /-- The grammar broke down. -/
  | crashed
  deriving DecidableEq, Repr

def TokenizeError.message : TokenizeError → String
  | tooManyTokens limit => s!"region produced more than {limit} tokens"
  | nestingTooDeep limit => s!"grammar nesting exceeded depth {limit}"
  | malformedOutput grammar index =>
      s!"grammar '{grammar}' returned a malformed token at index {index}"
  | crashed => "tokenizer panicked"

/-- A tokenizer for one language. -/
structure Grammar where
  name : String
  tokenize : String → Limits → Except TokenizeError (List Token)

namespace Grammar

/-- The index, counted from `i`, of the first token that is empty, starts before `bound` or the end
of the token before it, or ends after `length`. -/
def firstMalformed? (length : Nat) : (bound i : Nat) → List Token → Option Nat
  | _, _, [] => none
  | bound, i, t :: ts =>
      if t.start < bound || t.stop ≤ t.start || length < t.stop then some i
      else firstMalformed? length t.stop (i + 1) ts

/-- The tokens that the grammar finds in a text, if they are as they should be. -/
def check (g : Grammar) (text : String) (limits : Limits) : Except TokenizeError (List Token) :=
  match g.tokenize text limits with
  | .error e => .error e
  | .ok tokens =>
      if limits.maxTokens < tokens.length then .error (.tooManyTokens limits.maxTokens)
      else
        match firstMalformed? text.length 0 0 tokens with
        | some i => .error (.malformedOutput g.name i)
        | none => .ok tokens

end Grammar

/-- Why a language has no grammar. -/
inductive GrammarError where
  /-- Nothing provides the language. -/
  | notFound (language : String)
  /-- A rule's pattern cannot be read. -/
  | invalidPattern (grammar label : String)
  /-- The load failed for a reason of its own. -/
  | loadFailed (language reason : String)
  /-- The load ended without a result. -/
  | abandoned (language : String)
  deriving DecidableEq, Repr

/-- The wording of the error; that of a pattern's own fault is left out. -/
def GrammarError.message : GrammarError → String
  | notFound language => s!"grammar not found: {language}"
  | invalidPattern grammar label => s!"grammar '{grammar}' has an invalid pattern for '{label}'"
  | loadFailed language reason => s!"failed to load grammar '{language}': {reason}"
  | abandoned language => s!"grammar load for '{language}' was abandoned"

end Highlight
