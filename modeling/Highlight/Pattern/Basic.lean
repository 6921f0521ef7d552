import Highlight.Pattern.CharSet

/-!
# Patterns

A pattern says what a match looks like.  Alternatives are in order of preference, repetitions say
whether they prefer more or fewer rounds, and at most one group, the token group, reports what it
covered.

A repetition whose round may be empty could go on without end.  `number` gives every repetition a
number, and every choice inside such a repetition a numbered guard, under which the search notes the
places it has tried.
-/

namespace Highlight

/-- How a place lies to the words around it. -/
inductive WordPlace where
  /-- Exactly one neighbour is a word character. -/
  | edge
  | noEdge
  /-- A word character follows and none precedes. -/
  | start
  /-- A word character precedes and none follows. -/
  | stop
  /-- No word character precedes. -/
  | startHalf
  /-- No word character follows. -/
  | stopHalf
  deriving DecidableEq, Repr

/-- A condition on a place in the text, which takes up no character. -/
inductive Look where
  | textStart
  | textEnd
  /-- A line starts; `crlf` says whether a carriage return breaks lines, too. -/
  | lineStart (crlf : Bool)
  | lineEnd (crlf : Bool)
  /-- `asciiOnly` says whether only ASCII characters make words. -/
  | word (asciiOnly : Bool) (place : WordPlace)
  deriving DecidableEq, Repr

/-- A pattern. -/
inductive Pattern where
  | empty
  /-- One character. -/
  | char (s : CharSet)
  | look (l : Look)
  | seq (a b : Pattern)
  /-- Either one, `a` by preference. -/
  | alt (a b : Pattern)
  /-- The group whose extent is reported. -/
  | token (a : Pattern)
  /-- `a`, tried at most once at each place. -/
  | once (id : Nat) (a : Pattern)
  /-- One or more rounds of `a`. -/
  | many (greedy : Bool) (id : Nat) (a : Pattern)
  /-- One or more characters. -/
  | stretch (greedy : Bool) (id : Nat) (s : CharSet)
  deriving DecidableEq, Repr

namespace Pattern

/-- Whether the pattern can match nothing at all. -/
def nullable : Pattern → Bool
  | empty => true
  | char _ => false
  | look _ => true
  | seq a b => a.nullable && b.nullable
  | alt a b => a.nullable || b.nullable
  | token a => a.nullable
  | once _ a => a.nullable
  | many _ _ a => a.nullable
  | stretch _ _ _ => false

/-- Whether the pattern can match nothing but the empty text. -/
def weightless : Pattern → Bool
  | empty => true
  | char _ => false
  | look _ => true
  | seq a b => a.weightless && b.weightless
  | alt a b => a.weightless && b.weightless
  | token a => a.weightless
  | once _ a => a.weightless
  | many _ _ a => a.weightless
  | stretch _ _ _ => false

def hasToken : Pattern → Bool
  | empty => false
  | char _ => false
  | look _ => false
  | seq a b => a.hasToken || b.hasToken
  | alt a b => a.hasToken || b.hasToken
  | token _ => true
  | once _ a => a.hasToken
  | many _ _ a => a.hasToken
  | stretch _ _ _ => false

/-- The set, if the pattern is a test for one character. -/
def test? : Pattern → Option CharSet
  | char s => some s
  | _ => none

def concat : List Pattern → Pattern
  | [] => empty
  | [a] => a
  | a :: as => seq a (concat as)

/-- The first that leads to a match. -/
def choice : List Pattern → Pattern
  | [] => empty
  | [a] => a
  | a :: as => alt a (choice as)

/-- `a` or nothing; a greedy one prefers `a`. -/
def optional (greedy : Bool) (a : Pattern) : Pattern :=
  if greedy then alt a empty else alt empty a

/-- One or more rounds, not yet numbered. -/
def oneOrMore (greedy : Bool) : Pattern → Pattern
  | char s => stretch greedy 0 s
  | a => many greedy 0 a

/-- `a`, and each further copy only after the one before it. -/
def upTo (greedy : Bool) (a : Pattern) : Nat → Pattern
  | 0 => empty
  | 1 => optional greedy a
  | n + 1 => optional greedy (seq a (upTo greedy a n))

/-- Exactly `n` copies in front of `b`. -/
def copies (a : Pattern) : Nat → Pattern → Pattern
  | 0, b => b
  | n + 1, b => seq a (copies a n b)

/-- The bounds on the rounds of a repetition of `a`: what takes up no character is never
repeated. -/
def bounds (a : Pattern) (least : Nat) (most : Option Nat) : Nat × Option Nat :=
  if a.weightless then (min least 1, some (min (most.getD 1) 1)) else (least, most)

/-- At least `least` rounds, and at most `most` if that is given. -/
def repeated (greedy : Bool) (least : Nat) (most : Option Nat) (a : Pattern) : Pattern :=
  match least, most with
  | 0, none => optional greedy (oneOrMore greedy a)
  | n + 1, none => copies a n (oneOrMore greedy a)
  | 0, some m => upTo greedy a m
  | n + 1, some m =>
      if m = n + 1 then copies a n a else copies a (n + 1) (upTo greedy a (m - (n + 1)))

/-- Numbers the repetitions from `n` on, and guards the choices inside a repetition whose round may
be empty. -/
def numberFrom (guarded : Bool) : Pattern → Nat → Pattern × Nat
  | empty, n => (empty, n)
  | char s, n => (char s, n)
  | look l, n => (look l, n)
  | seq a b, n =>
      let (a, n) := numberFrom guarded a n
      let (b, n) := numberFrom guarded b n
      (seq a b, n)
  | alt a b, n =>
      let (a, n) := numberFrom guarded a n
      let (b, n) := numberFrom guarded b n
      if guarded then (once n (alt a b), n + 1) else (alt a b, n)
  | token a, n =>
      let (a, n) := numberFrom guarded a n
      (token a, n)
  | once _ a, n =>
      let (a, n) := numberFrom guarded a n
      (once n a, n + 1)
  | many greedy _ a, n =>
      let (a, n) := numberFrom (guarded || a.nullable) a n
      (many greedy n a, n + 1)
  | stretch greedy _ s, n => (stretch greedy n s, n + 1)

/-- Makes the numbers of all repetitions and guards distinct. -/
def number (a : Pattern) : Pattern := (a.numberFrom false 0).1

end Pattern

end Highlight
