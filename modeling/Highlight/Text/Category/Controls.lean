import Highlight.Text.Boundaries

/-!
# Separators and control characters by category

The boundaries of these categories of characters.  Long lists stand in several parts.
-/

namespace Highlight.Text.Category

def spaceSeparatorBoundaries : Array Nat :=
  #[
    32, 33, 160, 161, 5760, 5761, 8192, 8203, 8239, 8240, 8287, 8288, 12288, 12289]

def lineSeparatorBoundaries : Array Nat :=
  #[
    8232, 8233]

def paragraphSeparatorBoundaries : Array Nat :=
  #[
    8233, 8234]

def controlBoundaries : Array Nat :=
  #[
    0, 32, 127, 160]

def formatBoundaries : Array Nat :=
  #[
    173, 174, 1536, 1542, 1564, 1565, 1757, 1758, 1807, 1808, 2192, 2194, 2274, 2275, 6158, 6159,
    8203, 8208, 8234, 8239, 8288, 8293, 8294, 8304, 65279, 65280, 65529, 65532, 69821, 69822,
    69837, 69838, 78896, 78912, 113824, 113828, 119155, 119163, 917505, 917506, 917536, 917632]

def privateUseBoundaries : Array Nat :=
  #[
    57344, 63744, 983040, 1048574, 1048576, 1114110]

end Highlight.Text.Category
