import Highlight.Proofs.Document.Layout
import Highlight.Proofs.Document.Splice

/-!
# What an edit does

Every edit changes the text or the language of one block, or puts one block in, or takes one out,
and its change set is the splice of just the positions that go and come.  `Edited` lists the four
cases with the blocks before and after, so that laws about edits need not look into the operations
of documents.
-/

namespace Highlight

/-- The type of the block that an edit changes or puts in; a removal does neither. -/
def Edit.targetType? (d : Document) : Edit → Option String
  | .insertText pos _ => d.typeAt pos
  | .deleteText start _ => d.typeAt start
  | .replace start _ _ => d.typeAt start
  | .setLanguage id _ => (d.blocks.find? (·.id == id)).map (·.type)
  | .insertBlock _ block => some block.type
  | .removeBlock _ => none

namespace ChangeSet

@[simp] theorem delete_zero (c : ChangeSet) : c.delete 0 = c := rfl

@[simp] theorem insert_zero (c : ChangeSet) : c.insert 0 = c := rfl

theorem splice_zero_zero (a r : Nat) : splice a 0 0 r = identity (a + r) := by
  by_cases ha : a = 0 <;> by_cases hr : r = 0 <;>
    simp [splice, identity, retain, empty, addRetain, ha, hr]

end ChangeSet

theorem Block.text_split (b : Block) {i j : Nat} (hij : i ≤ j) :
    b.text.toList =
      b.text.toList.take i ++ ((b.text.toList.take j).drop i ++ b.text.toList.drop j) := by
  have htake : (b.text.toList.take j).take i = b.text.toList.take i := by
    rw [List.take_take, Nat.min_eq_left hij]
  rw [← htake, ← List.append_assoc, List.take_append_drop, List.take_append_drop]

theorem Block.length_splice (b : Block) {i j : Nat} (hij : i ≤ j) (hj : j ≤ b.length)
    (text : String) : (b.splice i j text).length + (j - i) = b.length + text.length := by
  have hlen : b.text.toList.length = b.length := String.length_toList
  have htext : text.toList.length = text.length := String.length_toList
  simp only [length, splice, String.length_ofList, List.length_append, List.length_take,
    List.length_drop] at *
  omega

namespace Document

/-- An edit of a document: the type of the block that it changes or puts in, the document
afterwards, and the change set. -/
inductive Edited (d : Document) : Option String → Document → ChangeSet → Prop
  | respelled (front : List Block) (b : Block) (back : List Block) (i j : Nat) (text : String)
      (hd : d.blocks = front ++ b :: back) (hij : i ≤ j) (hj : j ≤ b.length) :
      Edited d (some b.type) ⟨front ++ b.splice i j text :: back⟩
        (ChangeSet.splice (sizeOf front + 1 + i) (j - i) text.length
          (d.size - (sizeOf front + 1 + j)))
  | relabelled (front : List Block) (b : Block) (back : List Block) (language : Option String)
      (hd : d.blocks = front ++ b :: back) :
      Edited d (some b.type) ⟨front ++ { b with language } :: back⟩ (ChangeSet.identity d.size)
  | inserted (front : List Block) (b : Block) (back : List Block) (hd : d.blocks = front ++ back) :
      Edited d (some b.type) ⟨front ++ b :: back⟩
        (ChangeSet.splice (sizeOf front) 0 b.size (sizeOf back))
  | removed (front : List Block) (b : Block) (back : List Block)
      (hd : d.blocks = front ++ b :: back) :
      Edited d none ⟨front ++ back⟩ (ChangeSet.splice (sizeOf front) b.size 0 (sizeOf back))

variable {d d' : Document} {c : ChangeSet}

theorem replace_split {start stop : Nat} {text : String}
    (h : d.replace start stop text = .ok (d', c)) :
    ∃ front b back i j, d.blocks = front ++ b :: back ∧ i ≤ j ∧ j ≤ b.length ∧
      start = sizeOf front + 1 + i ∧ stop = sizeOf front + 1 + j ∧ d.typeAt start = some b.type ∧
      d' = ⟨front ++ b.splice i j text :: back⟩ ∧
      c = ChangeSet.splice start (stop - start) text.length (d.size - stop) := by
  unfold replace at h
  split at h
  · simp at h
  · rename_i horder
    cases hl : d.locate start with
    | none => simp [hl] at h
    | some found =>
        obtain ⟨i, b⟩ := found
        simp only [hl] at h
        split at h
        · simp at h
        · rename_i hstop
          obtain ⟨hholds, front, back, hblocks, rfl, hpos⟩ := locate_split hl
          obtain ⟨hd', hc⟩ := Prod.mk.inj (Except.ok.inj h)
          obtain ⟨hfirst, -⟩ : b.contentStart ≤ start ∧ start ≤ b.contentStop := by
            simpa [Placed.holds] using hholds
          have hcontent : b.contentStart = sizeOf front + 1 ∧
              b.contentStop = sizeOf front + 1 + b.block.length := by
            simp [Placed.contentStop, Placed.contentStart, hpos]
          rw [modify_split hblocks] at hd'
          exact ⟨front, b.block, back, start - b.contentStart, stop - b.contentStart, hblocks,
            by omega, by omega, by omega, by omega, typeAt_of_locate hl, hd'.symm, hc.symm⟩

theorem setLanguage_split {id : NodeId} {language : Option String}
    (h : d.setLanguage id language = .ok (d', c)) :
    ∃ front b back, d.blocks = front ++ b :: back ∧ b.id = id ∧ (∀ x ∈ front, x.id ≠ id) ∧
      d' = ⟨front ++ { b with language } :: back⟩ ∧ c = ChangeSet.identity d.size := by
  unfold setLanguage at h
  cases hi : d.indexOf? id with
  | none => simp [hi] at h
  | some i =>
      obtain ⟨front, b, back, hblocks, rfl, hid, hfront⟩ := indexOf?_split hi
      rw [hi] at h
      obtain ⟨rfl, rfl⟩ := Prod.mk.inj (Except.ok.inj h)
      exact ⟨front, b, back, hblocks, hid, hfront, by rw [modify_split hblocks], rfl⟩

theorem insertBlock_split (d : Document) (index : Nat) (b : Block) :
    ∃ front back, d.blocks = front ++ back ∧ front.length = min index d.blocks.length ∧
      d.insertBlock index b =
        (⟨front ++ b :: back⟩, ChangeSet.splice (sizeOf front) 0 b.size (sizeOf back)) := by
  have hblocks : d.blocks = d.blocks.take index ++ d.blocks.drop index :=
    (List.take_append_drop index d.blocks).symm
  have hrest : d.size - sizeOf (d.blocks.take index) = sizeOf (d.blocks.drop index) := by
    have hsize : d.size = sizeOf (d.blocks.take index) + sizeOf (d.blocks.drop index) := by
      rw [← sizeOf_append, ← hblocks, size]
    omega
  refine ⟨d.blocks.take index, d.blocks.drop index, hblocks, List.length_take, ?_⟩
  rw [← hrest]
  rfl

theorem removeBlock_of_split {front back : List Block} {b : Block}
    (hd : d.blocks = front ++ b :: back) (hfront : ∀ x ∈ front, x.id ≠ b.id) :
    d.removeBlock b.id =
      .ok (⟨front ++ back⟩, ChangeSet.splice (sizeOf front) b.size 0 (sizeOf back)) := by
  have htake : d.blocks.take front.length = front := by simp [hd]
  have hgone : (d.blocks.drop front.length).take 1 = [b] := by simp [hd]
  have hrest : d.size - sizeOf front - b.size = sizeOf back := by
    rw [size, hd, sizeOf_append, sizeOf_cons]
    omega
  simp only [removeBlock, indexOf?_of_split hd hfront, eraseIdx_split hd, htake, hgone, sizeOf_cons,
    sizeOf_nil, Nat.add_zero, hrest]
  rfl

theorem removeBlock_split {id : NodeId} (h : d.removeBlock id = .ok (d', c)) :
    ∃ front b back, d.blocks = front ++ b :: back ∧ b.id = id ∧ (∀ x ∈ front, x.id ≠ id) ∧
      d' = ⟨front ++ back⟩ ∧ c = ChangeSet.splice (sizeOf front) b.size 0 (sizeOf back) := by
  cases hi : d.indexOf? id with
  | none => simp [removeBlock, hi] at h
  | some i =>
      obtain ⟨front, b, back, hblocks, rfl, rfl, hfront⟩ := indexOf?_split hi
      rw [removeBlock_of_split hblocks hfront] at h
      obtain ⟨rfl, rfl⟩ := Prod.mk.inj (Except.ok.inj h)
      exact ⟨front, b, back, hblocks, rfl, hfront, rfl, rfl⟩

theorem edited_replace {start stop : Nat} {text : String}
    (h : d.replace start stop text = .ok (d', c)) : Edited d (d.typeAt start) d' c := by
  obtain ⟨front, b, back, i, j, hblocks, hij, hj, hstart, hstop, htype, rfl, rfl⟩ := replace_split h
  have hedited := Edited.respelled front b back i j text hblocks hij hj
  rw [← hstart, ← hstop, show j - i = stop - start by omega] at hedited
  rw [htype]
  exact hedited

theorem edited_of_edit {e : Edit} (h : d.edit e = .ok (d', c)) :
    Edited d (e.targetType? d) d' c := by
  cases e with
  | insertText pos text => exact edited_replace h
  | deleteText start stop => exact edited_replace h
  | replace start stop text => exact edited_replace h
  | setLanguage id language =>
      obtain ⟨front, b, back, hblocks, rfl, hfront, rfl, rfl⟩ := setLanguage_split h
      rw [Edit.targetType?, find?_of_split hblocks hfront]
      exact .relabelled front b back language hblocks
  | insertBlock index b =>
      obtain ⟨front, back, hblocks, -, heq⟩ := d.insertBlock_split index b
      obtain ⟨rfl, rfl⟩ := Prod.mk.inj ((Except.ok.inj h).symm.trans heq)
      exact .inserted front b back hblocks
  | removeBlock id =>
      obtain ⟨front, b, back, hblocks, -, -, rfl, rfl⟩ := removeBlock_split h
      exact .removed front b back hblocks

end Document

end Highlight
