import Highlight.Proofs.Document.Edits
import Highlight.Proofs.Rendering.Scratch

/-!
# Decorations across an edit

The decorations of a document, carried across an edit, are those of the edited document: they stay
in the blocks before the edit, move with the blocks after it, and go with a block that is removed.
This holds for every removal of a block, and for all other edits as long as the block that is
changed or put in is not of the region type, and so has no decorations before or afterwards.
-/

namespace Highlight

section

variable {type : String} {known : String → Option Grammar} {limits : Limits} {a m n r : Nat}

theorem Placed.filterMap_scratch_after {p q : Nat} (b : Block) (hp : a + m ≤ p)
    (hq : q + m = p + n) :
    (Placed.scratch known limits ⟨p, b⟩).filterMap (Decoration.map? (ChangeSet.splice a m n r)) =
      Placed.scratch known limits ⟨q, b⟩ := by
  simp only [scratch, contentStart, List.filterMap_map]
  rw [← List.filterMap_eq_map]
  apply List.filterMap_congr
  intro t ht
  obtain ⟨hlt, -⟩ := (labelledTokens_inside _ _).1 t ht
  have hx : (t.at (p + 1)).start < (t.at (p + 1)).stop := by
    simp only [Token.at]
    omega
  have hbefore : a < (t.at (p + 1)).start ∧ a + m ≤ (t.at (p + 1)).start := by
    simp only [Token.at]
    omega
  rw [Function.comp_apply, Decoration.map?_splice_after hx hbefore.1 hbefore.2]
  simp only [Token.at, Function.comp_apply, Option.some.injEq, Decoration.mk.injEq, and_true]
  omega

namespace Document

theorem filterMap_scratchFrom_before {p : Nat} {bs : List Block} (h : p + sizeOf bs ≤ a) :
    (scratchFrom type known limits p bs).filterMap (Decoration.map? (ChangeSet.splice a m n r)) =
      scratchFrom type known limits p bs := by
  rw [← List.filterMap_some (l := scratchFrom type known limits p bs), List.filterMap_filterMap]
  apply List.filterMap_congr
  intro x hx
  obtain ⟨-, hlt, hstop⟩ := bounds_of_mem_scratchFrom hx
  exact Decoration.map?_splice_before hlt (Nat.lt_of_lt_of_le hstop h)

theorem filterMap_scratchFrom_after {p q : Nat} {bs : List Block} (hp : a + m ≤ p)
    (hq : q + m = p + n) :
    (scratchFrom type known limits p bs).filterMap (Decoration.map? (ChangeSet.splice a m n r)) =
      scratchFrom type known limits q bs := by
  induction bs generalizing p q with
  | nil => rfl
  | cons b bs ih =>
      have htail := ih (p := p + b.size) (q := q + b.size) (by omega) (by omega)
      rw [scratchFrom_cons, scratchFrom_cons, List.filterMap_append, htail]
      by_cases hb : b.type = type
      · rw [if_pos hb, if_pos hb, Placed.filterMap_scratch_after b hp hq]
      · rw [if_neg hb, if_neg hb, List.filterMap_nil]

theorem filterMap_scratchFrom_gone {p : Nat} {bs : List Block} (hp : a ≤ p)
    (h : p + sizeOf bs ≤ a + m) :
    (scratchFrom type known limits p bs).filterMap (Decoration.map? (ChangeSet.splice a m 0 r)) =
      [] := by
  rw [List.filterMap_eq_nil_iff]
  intro x hx
  obtain ⟨hstart, hlt, hstop⟩ := bounds_of_mem_scratchFrom hx
  exact Decoration.map?_splice_inside (by omega) (by omega) hlt

/-- Blocks `old` of a document give way to blocks `new`: of their positions `m` go and `n` come,
from the position `a` on.  The new blocks are not of the region type; the old ones are not either,
or else all their positions go. -/
inductive Exchange (type : String) (d d' : Document) (c : ChangeSet) : Prop
  | intro (front old new back : List Block) {a m n r : Nat}
      (hd : d.blocks = front ++ (old ++ back)) (hd' : d'.blocks = front ++ (new ++ back))
      (hc : c = ChangeSet.splice a m n r) (ha : sizeOf front ≤ a)
      (hm : a + m ≤ sizeOf front + sizeOf old) (hsize : sizeOf new + m = sizeOf old + n)
      (hnew : ∀ b ∈ new, b.type ≠ type)
      (hold : (∀ b ∈ old, b.type ≠ type) ∨ a = sizeOf front ∧ m = sizeOf old ∧ n = 0)

theorem scratchFrom_of_ne {p : Nat} {bs : List Block} (h : ∀ b ∈ bs, b.type ≠ type) :
    scratchFrom type known limits p bs = [] := by
  rw [List.eq_nil_iff_forall_not_mem]
  intro x hx
  obtain ⟨b, hb, htype, -⟩ := exists_block_of_mem_scratchFrom hx
  exact h b.block (block_of_mem_placeFrom hb) htype

variable {d d' : Document} {c : ChangeSet}

theorem Exchange.mem (h : Exchange type d d' c) {b : Block} (hb : b ∈ d'.blocks)
    (ht : b.type = type) : b ∈ d.blocks := by
  obtain ⟨front, old, new, back, hd, hd', -, -, -, -, hnew, -⟩ := h
  rw [hd', List.mem_append, List.mem_append] at hb
  rw [hd, List.mem_append, List.mem_append]
  rcases hb with hb | hb | hb
  · exact Or.inl hb
  · exact absurd ht (hnew b hb)
  · exact Or.inr (Or.inr hb)

theorem Exchange.filterMap_scratch (h : Exchange type d d' c) :
    (d.scratch type known limits).filterMap (Decoration.map? c) = d'.scratch type known limits := by
  obtain ⟨front, old, new, back, hd, hd', rfl, ha, hm, hsize, hnew, hold⟩ := h
  rename_i a m n r
  have hfront : (scratchFrom type known limits 0 front).filterMap
      (Decoration.map? (ChangeSet.splice a m n r)) = scratchFrom type known limits 0 front :=
    filterMap_scratchFrom_before (by omega)
  have hback : (scratchFrom type known limits (sizeOf front + sizeOf old) back).filterMap
      (Decoration.map? (ChangeSet.splice a m n r)) =
        scratchFrom type known limits (sizeOf front + sizeOf new) back :=
    filterMap_scratchFrom_after hm (by omega)
  have hgone : (scratchFrom type known limits (sizeOf front) old).filterMap
      (Decoration.map? (ChangeSet.splice a m n r)) = [] := by
    rcases hold with hne | ⟨rfl, rfl, rfl⟩
    · rw [scratchFrom_of_ne hne, List.filterMap_nil]
    · exact filterMap_scratchFrom_gone (Nat.le_refl _) (Nat.le_refl _)
  rw [← scratchFrom_zero, ← scratchFrom_zero, hd, hd']
  simp only [scratchFrom_append, Nat.zero_add, List.filterMap_append, hfront, hgone, hback,
    scratchFrom_of_ne hnew]

/-! ### The edits -/

/-- Every edit is an exchange, unless it is about a block of the region type. -/
theorem Edited.exchange {target : Option String} (h : Edited d target d' c)
    (ht : target ≠ some type) : Exchange type d d' c := by
  have hne : ∀ {b : Block}, some b.type ≠ some type → ∀ x ∈ [b], x.type ≠ type := by
    intro b hb x hx he
    exact hb (congrArg some ((List.mem_singleton.mp hx) ▸ he))
  cases h with
  | respelled front b back i j text hd hij hj =>
      have hlength := b.length_splice hij hj text
      refine .intro front [b] [b.splice i j text] back hd rfl rfl ?_ ?_ ?_ (hne ht)
        (Or.inl (hne ht))
      · omega
      · simp only [sizeOf_cons, sizeOf_nil, Block.size]
        omega
      · simp only [sizeOf_cons, sizeOf_nil, Block.size]
        omega
  | relabelled front b back language hd =>
      have hsize : d.size = sizeOf front + sizeOf (b :: back) := by
        rw [size, hd, sizeOf_append]
      -- no position moves, least of all at the block's place
      have hc : ChangeSet.identity d.size =
          ChangeSet.splice (sizeOf front) 0 0 (sizeOf (b :: back)) := by
        rw [hsize, ChangeSet.splice_zero_zero]
      exact .intro front [b] [{ b with language }] back hd rfl hc (Nat.le_refl _)
        (Nat.le_add_right _ _) rfl (hne ht) (Or.inl (hne ht))
  | inserted front b back hd =>
      refine .intro (m := 0) front [] [b] back hd rfl rfl (Nat.le_refl _) (Nat.le_refl _) ?_
        (hne ht)
        (Or.inl (by simp))
      simp
  | removed front b back hd =>
      refine .intro (n := 0) front [b] [] back hd rfl rfl (Nat.le_refl _) ?_ ?_ (by simp)
        (Or.inr ⟨rfl, rfl, rfl⟩)
      · simp
      · simp

theorem exchange_edit {e : Edit} (h : d.edit e = .ok (d', c)) (ht : e.targetType? d ≠ some type) :
    Exchange type d d' c :=
  (edited_of_edit h).exchange ht

end Document

end

end Highlight
