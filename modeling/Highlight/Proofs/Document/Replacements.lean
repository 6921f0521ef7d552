import Highlight.Proofs.Document.Counts

/-!
# Which ranges can be replaced

A range can be replaced if and only if it lies in the content of one block, edges included.  There
is only one such block, and only its text changes.  Everything else is refused, with the reason: the
ends are in the wrong order, no block holds the start, or the block that holds the start ends before
the end.
-/

namespace Highlight

def Placed.Spans (b : Placed) (start stop : Nat) : Prop :=
  b.pos + 1 ≤ start ∧ stop ≤ b.pos + 1 + b.block.text.length

namespace Document

variable {d : Document} {start stop i : Nat} {b : Placed}

theorem holds_of_spans (horder : start ≤ stop) (h : b.Spans start stop) : b.holds start = true :=
  holds_iff.mpr ⟨h.1, Nat.le_trans horder h.2⟩

theorem replace_of_disorder (h : stop < start) (text : String) :
    d.replace start stop text = .error (.crossesBlocks start stop) := by
  rw [replace, if_pos h]

theorem replace_of_outside (horder : start ≤ stop) (h : ∀ b ∈ d.placed, b.holds start = false)
    (text : String) : d.replace start stop text = .error (.outsideContent start) := by
  rw [replace, if_neg (Nat.not_lt.mpr horder), locate_eq_none_iff.mpr h]

theorem replace_of_overrun (horder : start ≤ stop) (hb : b ∈ d.placed)
    (hholds : b.holds start = true) (h : b.contentStop < stop) (text : String) :
    d.replace start stop text = .error (.crossesBlocks start stop) := by
  obtain ⟨i, hi⟩ := List.getElem?_of_mem hb
  rw [replace, if_neg (Nat.not_lt.mpr horder), locate_eq_some_iff.mpr ⟨hi, hholds⟩]
  exact if_pos h

theorem replace_of_spans (horder : start ≤ stop) (hi : d.placed[i]? = some b)
    (h : b.Spans start stop) (text : String) :
    ∃ c, d.replace start stop text =
      .ok (⟨d.blocks.set i (b.block.splice (start - b.pos - 1) (stop - b.pos - 1) text)⟩, c) := by
  have hlocate := locate_eq_some_iff.mpr ⟨hi, holds_of_spans horder h⟩
  obtain ⟨-, front, back, hblocks, rfl, -⟩ := locate_split hlocate
  have hset : d.blocks.modify front.length
        (fun c => c.splice (start - b.contentStart) (stop - b.contentStart) text) =
      d.blocks.set front.length (b.block.splice (start - b.pos - 1) (stop - b.pos - 1) text) := by
    rw [modify_split hblocks, hblocks, Placed.contentStart, Nat.sub_add_eq, Nat.sub_add_eq]
    simp
  rw [replace, if_neg (Nat.not_lt.mpr horder), hlocate]
  simp only [if_neg (Nat.not_lt.mpr (show stop ≤ b.contentStop from h.2)), hset]
  exact ⟨_, rfl⟩

/-- A range is replaced if and only if it is in order and in the content of a block.  The block is
the only one of this kind, and the only change is that in its text the characters of the range give
way to the new ones.  A range that is out of order crosses blocks; one that is in order starts
outside of all contents, or crosses the end of the block that holds its start.  Where the numbers of
characters are stored, the same happens to the blocks, and the numbers stay right. -/
theorem replace_accepts_ranges_inside_a_block (d : Document) (start stop : Nat) (text : String) :
    ((∃ r, d.replace start stop text = .ok r) ↔
      start ≤ stop ∧ ∃ b ∈ d.placed, b.Spans start stop) ∧
    (∀ i b, start ≤ stop → d.placed[i]? = some b → b.Spans start stop →
      (∀ j b', d.placed[j]? = some b' → b'.Spans start stop → j = i) ∧
      ∃ c, d.replace start stop text = .ok (⟨d.blocks.set i { b.block with
        text := .ofList (b.block.text.toList.take (start - b.pos - 1) ++ text.toList ++
          b.block.text.toList.drop (stop - b.pos - 1)) }⟩, c)) ∧
    (stop < start → d.replace start stop text = .error (.crossesBlocks start stop)) ∧
    (start ≤ stop → (∀ b ∈ d.placed, b.holds start = false) →
      d.replace start stop text = .error (.outsideContent start)) ∧
    (start ≤ stop → ∀ b ∈ d.placed, b.holds start = true → b.contentStop < stop →
      d.replace start stop text = .error (.crossesBlocks start stop)) ∧
    (CountedDocument.ofDocument d).replace start stop text =
      some ((d.replace start stop text).map fun r => (CountedDocument.ofDocument r.1, r.2)) := by
  refine ⟨⟨?_, ?_⟩, ?_, fun h => replace_of_disorder h text,
    fun horder h => replace_of_outside horder h text,
    fun horder b hb hholds h => replace_of_overrun horder hb hholds h text,
    CountedDocument.replace_ofDocument d start stop text⟩
  · rintro ⟨r, hr⟩
    obtain ⟨front, b, back, i, j, hblocks, hij, hj, rfl, rfl, -⟩ := replace_split hr
    refine ⟨by omega, ⟨sizeOf front, b⟩, ?_, Nat.le_add_right _ _, Nat.add_le_add_left hj _⟩
    rw [placed, hblocks, placeFrom_append]
    simp
  · rintro ⟨horder, b, hb, hspans⟩
    obtain ⟨i, hi⟩ := List.getElem?_of_mem hb
    obtain ⟨c, hc⟩ := replace_of_spans horder hi hspans text
    exact ⟨_, hc⟩
  · intro i b horder hi hspans
    refine ⟨?_, replace_of_spans horder hi hspans text⟩
    intro j b' hj hspans'
    exact eq_of_holds hj hi (holds_of_spans horder hspans') (holds_of_spans horder hspans)

/-- Characters of several bytes give way to one more in a block between two empty ones, and nothing
can be replaced at or across its boundaries. -/
theorem replace_between_empty_blocks :
    let d : Document :=
      ⟨[{ id := 1, text := "" }, { id := 2, language := some "x", text := "añ→b" },
        { id := 3, text := "" }]⟩
    let d' : Document :=
      ⟨[{ id := 1, text := "" }, { id := 2, language := some "x", text := "aê↦ëb" },
        { id := 3, text := "" }]⟩
    let b : Placed := ⟨2, { id := 2, language := some "x", text := "añ→b" }⟩
    d.placed[1]? = some b ∧ b.Spans 4 6 ∧ (∃ c, d.replace 4 6 "ê↦ë" = .ok (d', c)) ∧
      d.replace 6 4 "x" = .error (.crossesBlocks 6 4) ∧
      d.replace 2 2 "x" = .error (.outsideContent 2) ∧
      d.replace 6 8 "x" = .error (.crossesBlocks 6 8) := by
  intro d d' b
  have hplaced : d.placed[1]? = some b := by decide +kernel
  have hspans : b.Spans 4 6 := ⟨by decide, by decide +kernel⟩
  obtain ⟨-, hok, -⟩ := replace_accepts_ranges_inside_a_block d 4 6 "ê↦ë"
  obtain ⟨-, -, hdisorder, -⟩ := replace_accepts_ranges_inside_a_block d 6 4 "x"
  obtain ⟨-, -, -, houtside, -⟩ := replace_accepts_ranges_inside_a_block d 2 2 "x"
  obtain ⟨-, -, -, -, hoverrun, -⟩ := replace_accepts_ranges_inside_a_block d 6 8 "x"
  refine ⟨hplaced, hspans, ?_, hdisorder (by decide), houtside (by decide) (by decide +kernel),
    hoverrun (by decide) b (List.mem_of_getElem? hplaced) (by decide +kernel) (by decide +kernel)⟩
  have htext :
      String.ofList ("añ→b".toList.take 1 ++ "ê↦ë".toList ++ "añ→b".toList.drop 3) = "aê↦ëb" := by
    decide +kernel
  have hspliced : Document.mk (d.blocks.set 1 { b.block with
      text := .ofList ("añ→b".toList.take 1 ++ "ê↦ë".toList ++ "añ→b".toList.drop 3) }) = d' := by
    rw [htext]
    rfl
  obtain ⟨-, c, hc⟩ := hok 1 b (by decide) hplaced hspans
  exact ⟨c, hc.trans (congrArg (fun e => Except.ok (e, c)) hspliced)⟩

end Document

end Highlight
