import Highlight.Proofs.ChangeSet.Positions
import Highlight.Proofs.Document.Edits

/-!
# Documents that keep counts

A document that stores with each block the number of its characters finds a position without reading
the texts.  An edit then cuts the text at byte offsets and keeps the count by a subtraction and an
addition.  Started with right counts, this does what `Document.replace` does and the counts stay
right; no cut falls inside a character, and nothing is taken from a count that it does not hold.
-/

namespace Highlight

structure CountedBlock where
  block : Block
  count : Nat
  deriving DecidableEq, Repr

def CountedBlock.ofBlock (b : Block) : CountedBlock := ⟨b, b.length⟩

def CountedBlock.size (b : CountedBlock) : Nat := b.count + 2

structure CountedDocument where
  blocks : List CountedBlock := []
  deriving DecidableEq, Repr

namespace Text

/-- The byte offsets at which characters start, the first of them at `o`. -/
def charOffsets : Nat → List Char → List Nat
  | _, [] => []
  | o, c :: cs => o :: charOffsets (o + c.utf8Size) cs

/-- The byte offset of a character, or of the end of the text. -/
def byteOffset (text : String) (i : Nat) : Nat :=
  ((charOffsets 0 text.toList)[i]?).getD text.utf8ByteSize

/-- The text between two byte offsets, unless one of them is inside a character or out of the
text. -/
def slice? (text : String) (i j : Nat) : Option String :=
  if i ≤ j ∧ j ≤ text.utf8ByteSize then String.fromUTF8? (text.toByteArray.extract i j) else none

theorem size_utf8Encode_cons (c : Char) (cs : List Char) :
    (c :: cs).utf8Encode.size = c.utf8Size + cs.utf8Encode.size := by
  rw [List.utf8Encode_cons, ByteArray.size_append]
  simp [List.utf8Encode]

theorem getElem?_charOffsets (o : Nat) (cs : List Char) (i : Nat) :
    (charOffsets o cs)[i]? =
      if i < cs.length then some (o + (cs.take i).utf8Encode.size) else none := by
  induction cs generalizing o i with
  | nil => simp [charOffsets]
  | cons c cs ih =>
      cases i with
      | zero => simp [charOffsets]
      | succ i => simp [charOffsets, ih, size_utf8Encode_cons, Nat.add_assoc]

/-- A character starts where the text in front of it ends. -/
theorem byteOffset_eq (text : String) (i : Nat) :
    byteOffset text i = (String.ofList (text.toList.take i)).utf8ByteSize := by
  rw [byteOffset, getElem?_charOffsets, ← String.size_toByteArray (s := .ofList _),
    String.toByteArray_ofList]
  split
  · rw [Option.getD_some, Nat.zero_add]
  · rw [Option.getD_none, List.take_of_length_le (by omega), ← String.toByteArray_ofList,
      String.ofList_toList, String.size_toByteArray]

theorem fromUTF8?_toByteArray (text : String) : String.fromUTF8? text.toByteArray = some text := by
  simp [String.fromUTF8?, text.isValidUTF8, String.fromUTF8]

theorem slice?_append_left (front back : String) :
    slice? (front ++ back) 0 front.utf8ByteSize = some front := by
  rw [slice?, if_pos (by simp), String.toByteArray_append,
    ByteArray.extract_append_eq_left String.size_toByteArray.symm, fromUTF8?_toByteArray]

theorem slice?_append_right (front back : String) :
    slice? (front ++ back) front.utf8ByteSize (front ++ back).utf8ByteSize = some back := by
  rw [slice?, if_pos (by simp), String.toByteArray_append, ByteArray.extract_append_eq_right
    String.size_toByteArray.symm (by simp [String.size_toByteArray]), fromUTF8?_toByteArray]

/-- Texts are cut between characters, in front of any of them. -/
theorem slices_at_byteOffset (text : String) (i : Nat) :
    slice? text 0 (byteOffset text i) = some (.ofList (text.toList.take i)) ∧
      slice? text (byteOffset text i) text.utf8ByteSize = some (.ofList (text.toList.drop i)) := by
  have hsplit : text = .ofList (text.toList.take i) ++ .ofList (text.toList.drop i) := by
    rw [← String.ofList_append, List.take_append_drop, String.ofList_toList]
  have hleft := slice?_append_left (.ofList (text.toList.take i)) (.ofList (text.toList.drop i))
  have hright := slice?_append_right (.ofList (text.toList.take i)) (.ofList (text.toList.drop i))
  rw [← hsplit] at hleft hright
  rw [byteOffset_eq]
  exact ⟨hleft, hright⟩

end Text

namespace CountedBlock

/-- Puts a text in place of the characters from `i` up to `j`.  There is no result if the old text
would have to be cut inside a character, or the count would get below zero. -/
def splice? (b : CountedBlock) (i j : Nat) (text : String) : Option CountedBlock := do
  let old := b.block.text
  let front ← Text.slice? old 0 (Text.byteOffset old i)
  let back ← Text.slice? old (Text.byteOffset old j) old.utf8ByteSize
  let left ← (ChangeSet.subWords b.count (j - i)).toOption
  some ⟨{ b.block with text := front ++ text ++ back }, left + text.length⟩

/-- With a right count a block is spliced as ever, and the count stays right. -/
theorem splice?_ofBlock (b : Block) {i j : Nat} (hij : i ≤ j) (hj : j ≤ b.length) (text : String) :
    (ofBlock b).splice? i j text = some (ofBlock (b.splice i j text)) := by
  have hfront := (Text.slices_at_byteOffset b.text i).1
  have hback := (Text.slices_at_byteOffset b.text j).2
  have hleft : (ChangeSet.subWords b.length (j - i)).toOption = some (b.length - (j - i)) := by
    rw [ChangeSet.subWords, if_pos (by omega)]
    rfl
  have hcount : b.length - (j - i) + text.length = (b.splice i j text).length := by
    have hlength := b.length_splice hij hj text
    omega
  have htext :
      String.ofList (b.text.toList.take i) ++ text ++ String.ofList (b.text.toList.drop j) =
      (b.splice i j text).text := by
    simp [Block.splice, String.ofList_append, String.append_assoc]
  simp only [splice?, ofBlock, hfront, hback, hleft, htext, hcount, Option.bind_eq_bind,
    Option.bind_some]
  rfl

end CountedBlock

namespace CountedDocument

def ofDocument (d : Document) : CountedDocument := ⟨d.blocks.map .ofBlock⟩

def size (d : CountedDocument) : Nat := (d.blocks.map CountedBlock.size).sum

/-- The place, the position and the block whose content holds a position, in blocks from the `i`-th
at `pos` on. -/
def locateFrom (p : Nat) : Nat → Nat → List CountedBlock → Option (Nat × Nat × CountedBlock)
  | _, _, [] => none
  | i, pos, b :: bs =>
      if pos + 1 ≤ p ∧ p ≤ pos + 1 + b.count then some (i, pos, b)
      else locateFrom p (i + 1) (pos + b.size) bs

/-- Puts a text in place of a range inside one block's content.  There is no result if the block
cannot be spliced, or the range ends behind the document. -/
def replace (d : CountedDocument) (start stop : Nat) (text : String) :
    Option (Except EditError (CountedDocument × ChangeSet)) :=
  if stop < start then some (.error (.crossesBlocks start stop))
  else
    match locateFrom start 0 0 d.blocks with
    | none => some (.error (.outsideContent start))
    | some (i, pos, b) =>
        let first := pos + 1
        if first + b.count < stop then some (.error (.crossesBlocks start stop))
        else do
          let edited ← b.splice? (start - first) (stop - first) text
          let rest ← (ChangeSet.subWords d.size stop).toOption
          let changes :=
            (((ChangeSet.empty.retain start).delete (stop - start)).insert text.length).retain rest
          some (.ok (⟨d.blocks.set i edited⟩, changes))

theorem size_ofDocument (d : Document) : (ofDocument d).size = d.size := by
  simp only [size, ofDocument, Document.size, List.map_map]
  induction d.blocks with
  | nil => rfl
  | cons b bs ih => simpa [CountedBlock.size, CountedBlock.ofBlock, Block.size] using ih

theorem locateFrom_map (p i pos : Nat) (bs : List Block) :
    locateFrom p i pos (bs.map .ofBlock) =
      ((Document.placeFrom pos bs).findIdx? (·.holds p)).bind fun j =>
        (Document.placeFrom pos bs)[j]?.map fun b => (i + j, b.pos, .ofBlock b.block) := by
  induction bs generalizing i pos with
  | nil => rfl
  | cons b bs ih =>
      -- a right count makes the loop stop at the block that holds the position, and nowhere else
      have hholds : pos + 1 ≤ p ∧ p ≤ pos + 1 + (CountedBlock.ofBlock b).count ↔
          Placed.holds ⟨pos, b⟩ p = true := by
        rw [Placed.holds, Bool.and_eq_true, decide_eq_true_iff, decide_eq_true_iff]
        rfl
      rw [List.map_cons, locateFrom, Document.placeFrom_cons, List.findIdx?_cons]
      by_cases h : Placed.holds ⟨pos, b⟩ p = true
      · rw [if_pos (hholds.mpr h), if_pos h]
        rfl
      · rw [if_neg (fun hp => h (hholds.mp hp)), if_neg h, ih, Option.bind_map]
        congr 1
        funext j
        simp [Nat.add_assoc, Nat.add_comm 1 j]
        rfl

theorem locateFrom_ofDocument (d : Document) (p : Nat) :
    locateFrom p 0 0 (ofDocument d).blocks =
      (d.locate p).map fun found => (found.1, found.2.pos, .ofBlock found.2.block) := by
  rw [ofDocument, locateFrom_map, Document.locate, Document.placed]
  cases (Document.placeFrom 0 d.blocks).findIdx? (·.holds p) with
  | none => rfl
  | some i =>
      rw [Option.bind_some, Option.map_map]
      simp only [Nat.zero_add]
      rfl

theorem set_ofDocument {d : Document} {front back : List Block} {b : Block}
    (h : d.blocks = front ++ b :: back) (f : Block → Block) :
    (⟨(ofDocument d).blocks.set front.length (.ofBlock (f b))⟩ : CountedDocument) =
      ofDocument ⟨d.blocks.modify front.length f⟩ := by
  rw [Document.modify_split h, ofDocument, h]
  simp [ofDocument]

/-- With right counts an edit does what it does to the document, and leaves right counts. -/
theorem replace_ofDocument (d : Document) (start stop : Nat) (text : String) :
    (ofDocument d).replace start stop text =
      some ((d.replace start stop text).map fun r => (ofDocument r.1, r.2)) := by
  rw [replace, Document.replace, locateFrom_ofDocument]
  by_cases horder : stop < start
  · rw [if_pos horder, if_pos horder]
    rfl
  rw [if_neg horder, if_neg horder]
  cases hl : d.locate start with
  | none => rfl
  | some found =>
      obtain ⟨i, b⟩ := found
      obtain ⟨hholds, front, back, hblocks, rfl, hpos⟩ := Document.locate_split hl
      simp only [Option.map_some]
      by_cases hstop : b.contentStop < stop
      · have hcount : b.pos + 1 + (CountedBlock.ofBlock b.block).count < stop := hstop
        rw [if_pos hstop, if_pos hcount]
        rfl
      · have hcount : ¬ b.pos + 1 + (CountedBlock.ofBlock b.block).count < stop := hstop
        rw [if_neg hstop, if_neg hcount]
        have hfirst := (Document.holds_iff.mp hholds).1
        have hlast : stop ≤ b.pos + 1 + b.block.length := Nat.le_of_not_lt hstop
        have hspliced := CountedBlock.splice?_ofBlock b.block (i := start - (b.pos + 1))
          (j := stop - (b.pos + 1)) (by omega) (by omega) text
        have hsize : stop ≤ (ofDocument d).size := by
          rw [size_ofDocument, Document.size, hblocks, Document.sizeOf_append, Document.sizeOf_cons,
            Block.size]
          omega
        have hset := set_ofDocument hblocks fun c =>
          c.splice (start - b.contentStart) (stop - b.contentStart) text
        rw [hspliced, ChangeSet.subWords, if_pos hsize, size_ofDocument]
        exact congrArg (fun r => some (Except.ok (r, _))) hset

end CountedDocument

end Highlight
