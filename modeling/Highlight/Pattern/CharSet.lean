import Highlight.Text.Blank
import Highlight.Text.CaseVariants
import Highlight.Text.Category
import Highlight.Text.Digit
import Highlight.Text.Word

/-!
# Sets of characters

The sets that a pattern can ask one character to be in, as expressions with their membership test.
-/

namespace Highlight

/-- A set of characters. -/
inductive CharSet where
  /-- The characters from `lo` to `hi`. -/
  | range (lo hi : Char)
  /-- Word characters. -/
  | word
  /-- Decimal digits. -/
  | digit
  /-- White space. -/
  | blank
  /-- The code points between boundaries. -/
  | points (boundaries : Array Nat)
  | union (a b : CharSet)
  | inter (a b : CharSet)
  | diff (a b : CharSet)
  | symmDiff (a b : CharSet)
  | compl (a : CharSet)
  /-- The characters with a case variant in `a`. -/
  | anyCase (a : CharSet)
  deriving DecidableEq, Repr

namespace CharSet

def mem : CharSet → Char → Bool
  | range lo hi, c => lo ≤ c && c ≤ hi
  | word, c => Text.isWord c
  | digit, c => Text.isDigit c
  | blank, c => Text.isBlank c
  | points bs, c => Text.within bs c.toNat
  | union a b, c => a.mem c || b.mem c
  | inter a b, c => a.mem c && b.mem c
  | diff a b, c => a.mem c && !b.mem c
  | symmDiff a b, c => a.mem c != b.mem c
  | compl a, c => !a.mem c
  | anyCase a, c => (Text.caseVariants c).any a.mem

def single (c : Char) : CharSet := range c c

def empty : CharSet := range '\x01' '\x00'

def all : CharSet := compl empty

def ascii : CharSet := range '\x00' '\x7f'

def unionAll : List CharSet → CharSet
  | [] => empty
  | [a] => a
  | a :: as => union a (unionAll as)

def ofCategories (cs : List Text.Category) : CharSet :=
  unionAll (cs.map fun c => points c.boundaries)

def ofRanges (rs : List (Char × Char)) : CharSet := unionAll (rs.map fun r => range r.1 r.2)

def negateIf (negated : Bool) (a : CharSet) : CharSet := if negated then compl a else a

end CharSet

end Highlight
