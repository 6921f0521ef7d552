import Highlight.Proofs.Document.Flattening
import Highlight.Proofs.Document.Replacements

/-!
# Undoing edits

Every edit is taken back by one more edit: a replacement by the replacement of the new text by the
old one, an insertion of a block by its removal, and a removal by an insertion at the old index.
The two change sets are a splice and the splice with its lengths the other way round, and so each
position that the first one keeps is carried back to where it was.
-/

namespace Highlight

namespace ChangeSet

/-- The second change set carries the positions that the first one keeps back to where they were. -/
def Reverts (c c' : ChangeSet) : Prop :=
  ∀ p, c.deletes p = false → c'.mapPos .right (c.mapPos .right p) = p

theorem reverts_splice (a m n r r' : Nat) : Reverts (splice a m n r) (splice a n m r') := by
  intro p hp
  rw [deletes_splice] at hp
  rw [mapPos_splice_right, mapPos_splice_right]
  by_cases ha : p < a
  · rw [if_pos ha, if_pos ha]
  · have hkept : a + m ≤ p := by
      simp only [Bool.and_eq_false_iff, decide_eq_false_iff_not] at hp
      omega
    rw [if_neg ha, if_neg (by omega)]
    omega

end ChangeSet

/-- The character at a position, if there is one. -/
def Entry.char? : Entry → Option Char
  | .char c => some c
  | _ => none

/-- The characters that stand between two positions. -/
def Document.textBetween (d : Document) (start stop : Nat) : String :=
  .ofList (((d.entries.take stop).drop start).filterMap Entry.char?)

theorem Entry.ofList_filterMap_ofText (text : String) :
    String.ofList ((ofText text).filterMap char?) = text := by
  have hchars : (ofText text).filterMap char? = text.toList := by
    rw [ofText, List.filterMap_map]
    exact List.filterMap_some
  rw [hchars, String.ofList_toList]

namespace Block

theorem slice_entries (b : Block) {i j : Nat} (hj : j ≤ b.length) :
    (b.entries.take (1 + j)).drop (1 + i) =
      Entry.ofText (.ofList ((b.text.toList.take j).drop i)) := by
  have hlen : (Entry.ofText b.text).length = b.length := Entry.length_ofText b.text
  rw [entries, Nat.add_comm 1 j, Nat.add_comm 1 i, List.take_succ_cons, List.drop_succ_cons,
    List.take_append_of_le_length (by rw [hlen]; exact hj)]
  simp [Entry.ofText]

/-- What a splice has put in gives way to what it has taken out. -/
theorem splice_back (b : Block) {i j : Nat} (hij : i ≤ j) (hj : j ≤ b.length) (text : String) :
    (b.splice i j text).splice i (i + text.length) (.ofList ((b.text.toList.take j).drop i)) =
      b := by
  have hfront : (b.text.toList.take i).length = i := by
    rw [List.length_take, String.length_toList]
    exact Nat.min_eq_left (Nat.le_trans hij hj)
  have htext : text.toList.length = text.length := String.length_toList
  have hkept : (b.splice i j text).text.toList.take i = b.text.toList.take i := by
    simp [splice, hfront]
  have hrest : (b.splice i j text).text.toList.drop (i + text.length) = b.text.toList.drop j := by
    simp [splice, List.drop_append, hfront, htext]
  have hold : String.ofList (b.text.toList.take i ++ (b.text.toList.take j).drop i ++
      b.text.toList.drop j) = b.text := by
    rw [List.append_assoc, ← b.text_split hij, String.ofList_toList]
  rw [splice, hkept, hrest, String.toList_ofList, hold]
  rfl

end Block

namespace Document

variable {d d' : Document} {c : ChangeSet} {front back : List Block} {b : Block} {i j : Nat}

theorem slice_entries (hd : d.blocks = front ++ b :: back) (hj : j ≤ b.length) :
    (d.entries.take (sizeOf front + 1 + j)).drop (sizeOf front + 1 + i) =
      Entry.ofText (.ofList ((b.text.toList.take j).drop i)) := by
  have hfront : (entriesOf front).length = sizeOf front := length_entriesOf front
  rw [← b.slice_entries hj, entries, hd, entriesOf_append, entriesOf_cons, Nat.add_assoc,
    Nat.add_assoc, ← hfront, List.take_length_add_append, List.drop_length_add_append,
    List.take_append_of_le_length (by rw [Block.length_entries, Block.size]; omega)]

theorem textBetween_eq (hd : d.blocks = front ++ b :: back) (hj : j ≤ b.length) :
    d.textBetween (sizeOf front + 1 + i) (sizeOf front + 1 + j) =
      .ofList ((b.text.toList.take j).drop i) := by
  rw [textBetween, slice_entries hd hj, Entry.ofList_filterMap_ofText]

theorem replace_of_split (hd : d.blocks = front ++ b :: back) (hij : i ≤ j) (hj : j ≤ b.length)
    (text : String) :
    d.replace (sizeOf front + 1 + i) (sizeOf front + 1 + j) text =
      .ok (⟨front ++ b.splice i j text :: back⟩, ChangeSet.splice (sizeOf front + 1 + i) (j - i)
        text.length (d.size - (sizeOf front + 1 + j))) := by
  have hplaced : d.placed[front.length]? = some ⟨sizeOf front, b⟩ := by
    rw [placed, getElem?_placeFrom, hd]
    simp
  have hspans : Placed.Spans ⟨sizeOf front, b⟩ (sizeOf front + 1 + i) (sizeOf front + 1 + j) :=
    ⟨Nat.le_add_right _ _, Nat.add_le_add_left hj _⟩
  have horder : sizeOf front + 1 + i ≤ sizeOf front + 1 + j := Nat.add_le_add_left hij _
  obtain ⟨c, hc⟩ := replace_of_spans horder hplaced hspans text
  obtain ⟨-, -, -, -, -, -, -, -, -, -, -, -, rfl⟩ := replace_split hc
  rw [hc]
  simp [hd, Nat.add_assoc, Nat.add_sub_add_left]

/-- Every edit can be taken back.  After a replacement the old text, put in place of the new one,
gives the old document, also where the numbers of characters are stored.  An inserted block is
removed by its id if no block in front of it has that id, and a removed block is inserted at the
index where it was first found.  The change set of the second edit carries each position that the
first one keeps back to where it was. -/
theorem edits_can_be_taken_back (d : Document) :
    (∀ start stop text d' c, d.replace start stop text = .ok (d', c) →
      Entry.ofText (d.textBetween start stop) = (d.entries.take stop).drop start ∧
      ∃ c', d'.replace start (start + text.length) (d.textBetween start stop) = .ok (d, c') ∧
        (CountedDocument.ofDocument d').replace start (start + text.length)
          (d.textBetween start stop) = some (.ok (CountedDocument.ofDocument d, c')) ∧
        c.Reverts c') ∧
    (∀ index b, (∀ x ∈ d.blocks.take index, x.id ≠ b.id) →
      ∃ c', (d.insertBlock index b).1.removeBlock b.id = .ok (d, c') ∧
        (d.insertBlock index b).2.Reverts c') ∧
    ∀ id d' c, d.removeBlock id = .ok (d', c) →
      ∃ i b c', d.indexOf? id = some i ∧ d.blocks[i]? = some b ∧ d'.insertBlock i b = (d, c') ∧
        c.Reverts c' := by
  refine ⟨?_, ?_, ?_⟩
  · intro start stop text d' c h
    obtain ⟨front, b, back, i, j, hd, hij, hj, rfl, rfl, -, rfl, rfl⟩ := replace_split h
    have hlength := b.length_splice hij hj text
    have hold : (String.ofList ((b.text.toList.take j).drop i)).length =
        sizeOf front + 1 + j - (sizeOf front + 1 + i) := by
      have htext : b.text.toList.length = b.length := String.length_toList
      rw [String.length_ofList, List.length_drop, List.length_take, htext]
      omega
    have hundo := replace_of_split (d := ⟨front ++ b.splice i j text :: back⟩) rfl
      (Nat.le_add_right i text.length) (by omega) (.ofList ((b.text.toList.take j).drop i))
    rw [b.splice_back hij hj, ← hd, ← Nat.add_assoc, hold, Nat.add_sub_cancel_left] at hundo
    rw [textBetween_eq hd hj, slice_entries hd hj]
    refine ⟨rfl, _, hundo, ?_, ?_⟩
    · rw [CountedDocument.replace_ofDocument, hundo]
      rfl
    · exact ChangeSet.reverts_splice _ _ _ _ _
  · intro index b hfront
    have hblocks : d.blocks.take index ++ d.blocks.drop index = d.blocks :=
      List.take_append_drop _ _
    have hremoved := removeBlock_of_split (d := (d.insertBlock index b).1) rfl hfront
    rw [hblocks] at hremoved
    exact ⟨_, hremoved, ChangeSet.reverts_splice _ 0 b.size _ _⟩
  · intro id d' c h
    obtain ⟨front, b, back, hd, rfl, hfront, rfl, rfl⟩ := removeBlock_split h
    have hinserted : (⟨front ++ back⟩ : Document).insertBlock front.length b =
        (d, ChangeSet.splice (sizeOf front) 0 b.size (size ⟨front ++ back⟩ - sizeOf front)) := by
      rw [insertBlock, List.take_left, List.drop_left, ← hd]
      rfl
    exact ⟨front.length, b, _, indexOf?_of_split hd hfront, by simp [hd], hinserted,
      ChangeSet.reverts_splice _ b.size 0 _ _⟩

/-- In a document with repeated ids: two letters give way to three, a block comes in far behind the
end, and the first of two blocks with one id goes; each is taken back. -/
theorem edits_taken_back_among_repeated_ids :
    let a : Block := { id := 1, type := "paragraph", text := "π→" }
    let b : Block := { id := 2, language := some "x", text := "añb" }
    let d : Document := ⟨[a, b, { a with text := "" }]⟩
    let d' : Document := ⟨[a, { b with text := "aê↦ëb" }, { a with text := "" }]⟩
    let c : ChangeSet := ⟨[.retain 6, .insert 3, .delete 1, .retain 4], 11, 13⟩
    let gone : Document := ⟨[b, { a with text := "" }]⟩
    d.replace 6 7 "ê↦ë" = .ok (d', c) ∧
      (∃ c', d'.replace 6 9 "ñ" = .ok (d, c') ∧ c'.mapPos .right (c.mapPos .right 7) = 7) ∧
      (∃ c', (d.insertBlock 9 { b with id := 3 }).1.removeBlock 3 = .ok (d, c')) ∧
      (∃ c, d.removeBlock 1 = .ok (gone, c)) ∧ ∃ c', gone.insertBlock 0 a = (d, c') := by
  intro a b d d' c gone
  have hreplace : d.replace 6 7 "ê↦ë" = .ok (d', c) := by decide +kernel
  have hremove : d.removeBlock 1 = .ok (gone, ⟨[.delete 4, .retain 7], 11, 7⟩) := by decide +kernel
  have hold : d.textBetween 6 7 = "ñ" := by decide +kernel
  have hfront : ∀ x ∈ d.blocks.take 9, x.id ≠ 3 := by decide +kernel
  obtain ⟨hundo, hremoved, hinserted⟩ := edits_can_be_taken_back d
  obtain ⟨-, c', hback, -, hreverts⟩ := hundo 6 7 "ê↦ë" d' c hreplace
  obtain ⟨c'', hgone, -⟩ := hremoved 9 { b with id := 3 } hfront
  obtain ⟨i, x, c''', hi, hx, hput, -⟩ := hinserted 1 gone _ hremove
  have hplace : d.indexOf? 1 = some 0 := by decide +kernel
  obtain rfl : 0 = i := Option.some.inj (hplace.symm.trans hi)
  obtain rfl : a = x := Option.some.inj hx
  rw [hold] at hback
  exact ⟨hreplace, ⟨c', hback, hreverts 7 (by decide)⟩, ⟨c'', hgone⟩, ⟨_, hremove⟩, c''', hput⟩

end Document

end Highlight
