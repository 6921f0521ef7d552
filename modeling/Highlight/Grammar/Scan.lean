import Highlight.Grammar.Rules
import Highlight.Pattern.Search

/-!
# Scanning with rules

A scan of a text by a rule tree takes, again and again, the rule whose next token starts first (of
several, the one listed first), and goes on after that token.  Each rule keeps its next token until
the scan has passed its start.  Labels pile up from the root inwards: a nested scan starts with
the labels of the rules around it, and what it leaves over gets just these.
-/

namespace Highlight

/-- The next token of a rule. -/
structure Found where
  /-- Where the whole match starts; the token may start later. -/
  matchStart : Nat
  start : Nat
  stop : Nat
  deriving DecidableEq, Repr

/-- What a rule knows about its next token. -/
inductive Cursor where
  | unsearched
  | found (f : Found)
  | exhausted
  deriving DecidableEq, Repr

/-- The first match within `fuel` searches, the first of them from `p` on, whose token is not empty;
after an empty token the search goes on behind the start of its match. -/
def Pattern.findTokenWithin (a : Pattern) (hay : Array Char) : Nat → Nat → Option Found
  | 0, _ => none
  | fuel + 1, p =>
      if hay.size < p then none
      else
        match a.find hay p with
        | none => none
        | some h =>
            if h.token.start < h.token.stop then some ⟨h.start, h.token.start, h.token.stop⟩
            else findTokenWithin a hay fuel (h.start + 1)

/-- The first match from `p` on whose token is not empty. -/
def Pattern.findToken (a : Pattern) (hay : Array Char) (p : Nat) : Option Found :=
  a.findTokenWithin hay (hay.size + 1 - p) p

namespace Cursor

/-- Brings a rule's cursor up to the place `p` of the scan: a token that starts there or later is
kept, and a rule without any left is not searched for again. -/
def advance (a : Pattern) (hay : Array Char) (p : Nat) : Cursor → Cursor
  | exhausted => exhausted
  | unsearched =>
      match a.findToken hay p with
      | some f => found f
      | none => exhausted
  | found f =>
      if p ≤ f.start then found f
      else
        match a.findToken hay p with
        | some f => found f
        | none => exhausted

def found? : Cursor → Option Found
  | found f => some f
  | _ => none

end Cursor

/-- A rule with its cursor. -/
abbrev Tracked := Rule Pattern × Cursor

def advanceAll (hay : Array Char) (p : Nat) (rs : List Tracked) : List Tracked :=
  rs.map fun r => (r.1, r.2.advance r.1.pattern hay p)

/-- The rule whose token starts first; of several, the first in the list. -/
def earliest : List Tracked → Option (Rule Pattern × Found)
  | [] => none
  | r :: rs =>
      match r.2.found?, earliest rs with
      | none, best => best
      | some f, none => some (r.1, f)
      | some f, some (s, g) => if g.start < f.start then some (s, g) else some (r.1, f)

namespace RuleTree

/-- The tokens so far, or why there are none. -/
abbrev Output := Except TokenizeError (Array Token)

/-- Adds a token, if there is room for it. -/
def emit (limits : Limits) (t : Token) (out : Array Token) : Output :=
  if limits.maxTokens ≤ out.size then .error (.tooManyTokens limits.maxTokens) else .ok (out.push t)

/-- A nested scan by a tree: of the text that starts at the given place, under the given labels. -/
abbrev Descend := RuleGrammar → Array Char → Nat → List String → Array Token → Output

/-- Deals with the text from `p` to `q` between two matches: it is handed to the root, or gets the
labels around it, if there are any. -/
def gap (root : RuleGrammar) (limits : Limits) (descend : Descend) (tree : RuleGrammar)
    (hay : Array Char) (base : Nat) (labels : List String) (p q : Nat) (out : Array Token) :
    Output :=
  if q ≤ p then .ok out
  else if tree.restToRoot then descend root (hay.extract p q) (base + p) labels out
  else if labels.isEmpty then .ok out
  else emit limits ⟨base + p, base + q, labels⟩ out

/-- Deals with a match: it is one token, or is scanned again under one more label. -/
def take (root : RuleGrammar) (limits : Limits) (descend : Descend) (hay : Array Char) (base : Nat)
    (labels : List String) (r : Rule Pattern) (f : Found) (out : Array Token) : Output :=
  let labels := labels ++ [r.label]
  match r.inside with
  | .token => emit limits ⟨base + f.start, base + f.stop, labels⟩ out
  | .nested tree => descend tree (hay.extract f.start f.stop) (base + f.start) labels out
  | .root => descend root (hay.extract f.start f.stop) (base + f.start) labels out

/-- The scan of the text from `p` on; every round moves forward. -/
def scanFrom (root : RuleGrammar) (limits : Limits) (descend : Descend) (tree : RuleGrammar)
    (hay : Array Char) (base : Nat) (labels : List String) :
    Nat → List Tracked → Nat → Array Token → Output
  | 0, _, p, out => gap root limits descend tree hay base labels p hay.size out
  | fuel + 1, rs, p, out =>
      let rs := advanceAll hay p rs
      match earliest rs with
      | none => gap root limits descend tree hay base labels p hay.size out
      | some (r, f) =>
          match gap root limits descend tree hay base labels p f.start out with
          | .error e => .error e
          | .ok out =>
              match take root limits descend hay base labels r f out with
              | .error e => .error e
              | .ok out => scanFrom root limits descend tree hay base labels fuel rs f.stop out

/-- The scan by a tree when `levels` more levels of nesting are allowed. -/
def scan (root : RuleGrammar) (limits : Limits) : Nat → Descend
  | 0, _, _, _, _, _ => .error (.nestingTooDeep limits.maxDepth)
  | levels + 1, tree, hay, base, labels, out =>
      scanFrom root limits (scan root limits levels) tree hay base labels (hay.size + 1)
        (tree.rules.map fun r => (r, .unsearched)) 0 out

def tokenize (root : RuleGrammar) (text : String) (limits : Limits) :
    Except TokenizeError (List Token) :=
  match scan root limits (limits.maxDepth + 1) root text.toList.toArray 0 [] #[] with
  | .error e => .error e
  | .ok out => .ok out.toList

def toGrammar (root : RuleGrammar) : Grammar := ⟨root.name, root.tokenize⟩

end RuleTree

end Highlight
