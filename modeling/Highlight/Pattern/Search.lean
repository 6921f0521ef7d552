import Highlight.Pattern.Basic
import Std.Data.HashSet.Basic

/-!
# Searching

`matchAt` finds the preferred match of a pattern that starts at a given place, by trying
alternatives in order and going back to the last choice when the rest does not fit.  `find` gives
the match with the smallest start at or after a place; what stands before that place still counts
for the conditions on neighbours.

The search carries what is to be matched next as a function, and a record of the places where the
numbered parts of the pattern have been tried.  A part that was tried at a place is not tried there
again: either it failed, or it is under way and would only run in a circle.
-/

namespace Highlight

/-- A half-open range of places in a text. -/
structure Span where
  start : Nat
  stop : Nat
  deriving DecidableEq, Repr

/-- A match: the places it lies between and what the token group covered, if it took part. -/
structure Hit where
  start : Nat
  stop : Nat
  token? : Option Span
  deriving DecidableEq, Repr

/-- The part of the match that becomes the token: the token group, or all of it. -/
def Hit.token (h : Hit) : Span := h.token?.getD ⟨h.start, h.stop⟩

/-- Which numbered parts of the pattern have been tried where. -/
abbrev Tried := Std.HashSet (Nat × Nat)

namespace Look

def isWordChar (asciiOnly : Bool) (c : Char) : Bool :=
  if asciiOnly then c.isAlphanum || c == '_' else Text.isWord c

/-- Whether a word character stands right before the place. -/
def wordBefore (asciiOnly : Bool) (hay : Array Char) (p : Nat) : Bool :=
  p != 0 && hay[p - 1]?.any (isWordChar asciiOnly)

/-- Whether a word character stands right after the place. -/
def wordAfter (asciiOnly : Bool) (hay : Array Char) (p : Nat) : Bool :=
  hay[p]?.any (isWordChar asciiOnly)

/-- Whether a place with these neighbours lies so to the words around it. -/
def placed (before after : Bool) : WordPlace → Bool
  | .edge => before != after
  | .noEdge => before == after
  | .start => !before && after
  | .stop => before && !after
  | .startHalf => !before
  | .stopHalf => !after

/-- Whether the condition holds at a place of the text. -/
def holds (hay : Array Char) (p : Nat) : Look → Bool
  | textStart => p == 0
  | textEnd => p == hay.size
  | lineStart crlf =>
      p == 0 || hay[p - 1]? == some '\n' ||
        (crlf && hay[p - 1]? == some '\r' && hay[p]? != some '\n')
  | lineEnd false => p == hay.size || hay[p]? == some '\n'
  | lineEnd true =>
      p == hay.size || hay[p]? == some '\r' ||
        (hay[p]? == some '\n' && (p == 0 || hay[p - 1]? != some '\r'))
  | word asciiOnly place => placed (wordBefore asciiOnly hay p) (wordAfter asciiOnly hay p) place

end Look

namespace Pattern

/-- What a search gives back: a match, and what has been tried. -/
abbrev Answer := Option Hit × Tried

/-- What is to be matched next, from a place on, with the token so far. -/
abbrev Rest := Nat → Option Span → Tried → Answer

/-- Tries the rest at the places from `p` down to, and without, `stop`. -/
def backDown (k : Rest) (t : Option Span) (stop : Nat) : Nat → Tried → Answer
  | 0, tried => (none, tried)
  | p + 1, tried =>
      if p + 1 ≤ stop then (none, tried)
      else
        match k (p + 1) t tried with
        | (none, tried) => backDown k t stop p tried
        | answer => answer

/-- How far characters of the set go from `p` on, up to a place where the stretch has been before;
each place on the way is noted. -/
def reach (hay : Array Char) (s : CharSet) (id : Nat) : Nat → Nat → Tried → Nat × Tried
  | 0, p, tried => (p, tried)
  | fuel + 1, p, tried =>
      match hay[p]? with
      | none => (p, tried)
      | some c =>
          if s.mem c && !tried.contains (id, p + 1) then
            reach hay s id fuel (p + 1) (tried.insert (id, p + 1))
          else (p, tried)

/-- Takes one character of the set after the other, and tries the rest after each of them. -/
def creep (hay : Array Char) (s : CharSet) (id : Nat) (k : Rest) (t : Option Span) :
    Nat → Nat → Tried → Answer
  | 0, _, tried => (none, tried)
  | fuel + 1, p, tried =>
      match hay[p]? with
      | none => (none, tried)
      | some c =>
          if s.mem c && !tried.contains (id, p + 1) then
            match k (p + 1) t (tried.insert (id, p + 1)) with
            | (none, tried) => creep hay s id k t fuel (p + 1) tried
            | answer => answer
          else (none, tried)

/-- Rounds of `body`, at least one; after each of them come more rounds and the rest, in the order
of preference.  A place where a round has ended before ends the search. -/
def rounds (body : Rest → Rest) (greedy : Bool) (id : Nat) : Nat → Rest → Rest
  | 0, _, _, _, tried => (none, tried)
  | fuel + 1, k, p, t, tried =>
      body (fun q t tried =>
        if tried.contains (id, q) then (none, tried)
        else
          let tried := tried.insert (id, q)
          if greedy then
            match rounds body greedy id fuel k q t tried with
            | (none, tried) => k q t tried
            | answer => answer
          else
            match k q t tried with
            | (none, tried) => rounds body greedy id fuel k q t tried
            | answer => answer) p t tried

/-- The search from a place on for the pattern and then the rest. -/
def run (hay : Array Char) : Pattern → Rest → Rest
  | empty, k, p, t, tried => k p t tried
  | char s, k, p, t, tried =>
      match hay[p]? with
      | none => (none, tried)
      | some c => if s.mem c then k (p + 1) t tried else (none, tried)
  | look l, k, p, t, tried => if l.holds hay p then k p t tried else (none, tried)
  | seq a b, k, p, t, tried => run hay a (run hay b k) p t tried
  | alt a b, k, p, t, tried =>
      match run hay a k p t tried with
      | (none, tried) => run hay b k p t tried
      | answer => answer
  | token a, k, p, t, tried => run hay a (fun q _ tried => k q (some ⟨p, q⟩) tried) p t tried
  | once id a, k, p, t, tried =>
      if tried.contains (id, p) then (none, tried)
      else run hay a k p t (tried.insert (id, p))
  | many greedy id a, k, p, t, tried =>
      rounds (fun k => run hay a k) greedy id (hay.size + 2) k p t tried
  | stretch greedy id s, k, p, t, tried =>
      if greedy then
        let (q, tried) := reach hay s id (hay.size - p) p tried
        backDown k t p q tried
      else creep hay s id k t (hay.size - p) p tried

/-- The preferred match that starts at a place. -/
def matchAt (a : Pattern) (hay : Array Char) (p : Nat) : Option Hit :=
  (a.run hay (fun q t tried => (some ⟨p, q, t⟩, tried)) p none ∅).1

/-- The first match that starts at one of `n` places from `p` on. -/
def findWithin (a : Pattern) (hay : Array Char) : Nat → Nat → Option Hit
  | 0, _ => none
  | n + 1, p =>
      match a.matchAt hay p with
      | some h => some h
      | none => findWithin a hay n (p + 1)

/-- Sets of which every match takes up a character. -/
def needs : Pattern → List CharSet
  | empty => []
  | char s => [s]
  | look _ => []
  | seq a b => a.needs ++ b.needs
  | alt _ _ => []
  | token a => a.needs
  | once _ a => a.needs
  | many _ _ a => a.needs
  | stretch _ _ s => [s]

/-- The match with the smallest start at or after a place.  Where the rest of the text lacks a
character that every match takes up, there is none. -/
def find (a : Pattern) (hay : Array Char) (p : Nat) : Option Hit :=
  if a.needs.all fun s => hay.any s.mem p then a.findWithin hay (hay.size + 1 - p) p else none

end Pattern

end Highlight
