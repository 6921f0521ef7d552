import Highlight.Document

/-!
# Regions

A region is the text of one code block, with the positions it takes up.  A `Scanner` knows the node
type of code blocks and lists the regions of a snapshot in document order.
-/

namespace Highlight

/-- A code block found by a scan. -/
structure Region where
  id : NodeId
  /-- The position of the block. -/
  pos : Nat
  /-- The position of the first character. -/
  start : Nat
  /-- The position after the last character. -/
  stop : Nat
  language : Option String
  text : String
  deriving DecidableEq, Repr

/-- The region that a placed block makes up. -/
def Region.ofPlaced (b : Placed) : Region where
  id := b.block.id
  pos := b.pos
  start := b.contentStart
  stop := b.contentStart + b.block.text.length
  language := b.block.language
  text := b.block.text

/-- Finds the blocks of one node type. -/
structure Scanner where
  type : String := "code_block"
  deriving DecidableEq, Repr

namespace Scanner

/-- Whether a node type, if there is one, is that of code blocks. -/
def isRegionType (s : Scanner) (type : Option String) : Bool := type == some s.type

def scan (s : Scanner) (d : Document) : List Region :=
  (d.placed.filter (·.block.type == s.type)).map Region.ofPlaced

end Scanner

end Highlight
