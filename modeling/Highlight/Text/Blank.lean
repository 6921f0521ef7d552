import Highlight.Text.Boundaries

/-!
# Blank characters

The characters that count as white space.
-/

namespace Highlight.Text

def blankBoundaries : Array Nat :=
  #[
    9, 14, 32, 33, 133, 134, 160, 161, 5760, 5761, 8192, 8203, 8232, 8234, 8239, 8240, 8287,
    8288, 12288, 12289]

def isBlank (c : Char) : Bool := within blankBoundaries c.toNat

end Highlight.Text
