import Highlight.Pattern.CharSet

/-!
# Flags

The flags that say how a part of a pattern is to be read.
-/

namespace Highlight.Pattern

/-- How the following part of a pattern is to be read. -/
structure Flags where
  ignoreCase : Bool := false
  /-- Lines have starts and ends of their own. -/
  multiline : Bool := false
  /-- The dot stands for a line break, too. -/
  dotAll : Bool := false
  /-- A carriage return breaks lines, too, alone or with a line feed. -/
  crlf : Bool := false
  /-- Repetitions are lazy unless they are marked. -/
  swapGreed : Bool := false
  /-- Blanks and comments mean nothing. -/
  verbose : Bool := false
  /-- Classes know ASCII characters only, and so does the comparison without regard to case. -/
  asciiOnly : Bool := false
  deriving DecidableEq, Repr

namespace Flags

/-- The set, with the case variants of its characters if case does not count. -/
def fold (f : Flags) (a : CharSet) : CharSet :=
  if !f.ignoreCase then a
  else if f.asciiOnly then .inter .ascii (.anyCase a)
  else .anyCase a

/-- The set that a literal character stands for. -/
def literal (f : Flags) (c : Char) : CharSet :=
  if f.asciiOnly && 128 ≤ c.val then .single c else f.fold (.single c)

def dot (f : Flags) : CharSet :=
  if f.dotAll then .all
  else if f.crlf then .compl (.union (.single '\r') (.single '\n'))
  else .compl (.single '\n')

end Flags

end Highlight.Pattern
