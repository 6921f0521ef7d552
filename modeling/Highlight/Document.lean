import Highlight.ChangeSet

/-!
# Documents

A document is a list of blocks.  Each block takes one position for its opening boundary, one for
each character and one for its closing boundary, so the content of a block at position `p` starts at
`p + 1`.  Every edit gives the next snapshot together with the change set from the old positions to
the new ones.
-/

namespace Highlight

/-- The identity of a block, which survives edits elsewhere. -/
abbrev NodeId := Nat

/-- A block of text with its node type and its declared language. -/
structure Block where
  id : NodeId
  type : String := "code_block"
  language : Option String := none
  text : String
  deriving DecidableEq, Repr

namespace Block

def length (b : Block) : Nat := b.text.length

def size (b : Block) : Nat := b.length + 2

/-- Puts a text in place of the characters from `i` up to `j`. -/
def splice (b : Block) (i j : Nat) (text : String) : Block :=
  let cs := b.text.toList
  { b with text := String.ofList (cs.take i ++ text.toList ++ cs.drop j) }

end Block

/-- A block together with the position of its opening boundary. -/
structure Placed where
  pos : Nat
  block : Block
  deriving DecidableEq, Repr

namespace Placed

def contentStart (b : Placed) : Nat := b.pos + 1

def contentStop (b : Placed) : Nat := b.contentStart + b.block.length

/-- Whether a position is inside the content; both edges of the text are. -/
def holds (b : Placed) (p : Nat) : Bool := b.contentStart ≤ p && p ≤ b.contentStop

end Placed

/-- Why an edit was refused. -/
inductive EditError where
  /-- The position is in no block's content. -/
  | outsideContent (pos : Nat)
  /-- The range is not inside one block's content. -/
  | crossesBlocks (start stop : Nat)
  /-- No block has the id. -/
  | unknownNode (id : NodeId)
  deriving DecidableEq, Repr

def EditError.message : EditError → String
  | outsideContent pos => s!"position {pos} is not inside block content"
  | crossesBlocks start stop => s!"range {start}..{stop} does not lie within a single block"
  | unknownNode id => s!"no block with id NodeId({id})"

/-- A snapshot of a document. -/
structure Document where
  blocks : List Block := []
  deriving DecidableEq, Repr

namespace Document

/-- The number of positions of a list of blocks. -/
def sizeOf : List Block → Nat
  | [] => 0
  | b :: bs => b.size + sizeOf bs

def size (d : Document) : Nat := sizeOf d.blocks

/-- The blocks with their positions, the first one at `p`. -/
def placeFrom : Nat → List Block → List Placed
  | _, [] => []
  | p, b :: bs => ⟨p, b⟩ :: placeFrom (p + b.size) bs

/-- The blocks with their positions, in document order. -/
def placed (d : Document) : List Placed := placeFrom 0 d.blocks

/-- The place in the list of the first block whose content holds a position, and that block. -/
def locate (d : Document) (p : Nat) : Option (Nat × Placed) :=
  match d.placed.findIdx? (·.holds p) with
  | none => none
  | some i => d.placed[i]?.map fun b => (i, b)

def blockAt (d : Document) (p : Nat) : Option Placed := d.placed.find? (·.holds p)

/-- The node type of the block whose content holds a position. -/
def typeAt (d : Document) (p : Nat) : Option String := (d.blockAt p).map (·.block.type)

/-- The position of the first block with an id. -/
def positionOf (d : Document) (id : NodeId) : Option Nat :=
  (d.placed.find? (·.block.id == id)).map (·.pos)

/-- Puts a text in place of a range inside one block's content. -/
def replace (d : Document) (start stop : Nat) (text : String) :
    Except EditError (Document × ChangeSet) :=
  if stop < start then .error (.crossesBlocks start stop)
  else
    match d.locate start with
    | none => .error (.outsideContent start)
    | some (i, b) =>
        if b.contentStop < stop then .error (.crossesBlocks start stop)
        else
          let edited := fun (c : Block) =>
            c.splice (start - b.contentStart) (stop - b.contentStart) text
          let changes :=
            (((ChangeSet.empty.retain start).delete (stop - start)).insert text.length).retain
              (d.size - stop)
          .ok (⟨d.blocks.modify i edited⟩, changes)

/-- Inserts a text at a position inside a block's content. -/
def insertText (d : Document) (pos : Nat) (text : String) :
    Except EditError (Document × ChangeSet) :=
  d.replace pos pos text

/-- Deletes a range inside one block's content. -/
def deleteText (d : Document) (start stop : Nat) : Except EditError (Document × ChangeSet) :=
  d.replace start stop ""

/-- The place in the list of the first block with an id. -/
def indexOf? (d : Document) (id : NodeId) : Option Nat := d.blocks.findIdx? (·.id == id)

/-- Declares the language of the first block with an id; no position moves. -/
def setLanguage (d : Document) (id : NodeId) (language : Option String) :
    Except EditError (Document × ChangeSet) :=
  match d.indexOf? id with
  | none => .error (.unknownNode id)
  | some i =>
      .ok (⟨d.blocks.modify i fun b => { b with language }⟩, ChangeSet.identity d.size)

/-- Inserts a block before the one at an index, or at the end. -/
def insertBlock (d : Document) (index : Nat) (block : Block) : Document × ChangeSet :=
  let front := d.blocks.take index
  let pos := sizeOf front
  (⟨front ++ block :: d.blocks.drop index⟩,
    ((ChangeSet.empty.retain pos).insert block.size).retain (d.size - pos))

/-- Removes the first block with an id. -/
def removeBlock (d : Document) (id : NodeId) : Except EditError (Document × ChangeSet) :=
  match d.indexOf? id with
  | none => .error (.unknownNode id)
  | some i =>
      let pos := sizeOf (d.blocks.take i)
      let gone := sizeOf ((d.blocks.drop i).take 1)
      .ok (⟨d.blocks.eraseIdx i⟩,
        ((ChangeSet.empty.retain pos).delete gone).retain (d.size - pos - gone))

end Document

/-- An edit of a document. -/
inductive Edit where
  | insertText (pos : Nat) (text : String)
  | deleteText (start stop : Nat)
  | replace (start stop : Nat) (text : String)
  | setLanguage (id : NodeId) (language : Option String)
  | insertBlock (index : Nat) (block : Block)
  | removeBlock (id : NodeId)
  deriving DecidableEq, Repr

def Document.edit (d : Document) : Edit → Except EditError (Document × ChangeSet)
  | .insertText pos text => d.insertText pos text
  | .deleteText start stop => d.deleteText start stop
  | .replace start stop text => d.replace start stop text
  | .setLanguage id language => d.setLanguage id language
  | .insertBlock index block => .ok (d.insertBlock index block)
  | .removeBlock id => d.removeBlock id

end Highlight
