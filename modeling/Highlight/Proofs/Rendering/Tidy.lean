import Highlight.Proofs.ChangeSet.Positions
import Highlight.Proofs.Document.Edits
import Highlight.Proofs.Rendering.Scratch

/-!
# Tidy decorations

Decorations are tidy if a view can draw them without a second look: in order and apart, none of them
empty or without a label, each inside the text of one block of the region type.  Computed
decorations are tidy, and an edit carries tidy decorations to tidy ones, also when it cuts through
them, since a change set never turns positions around and keeps what it does not remove of a block
inside the block.
-/

namespace Highlight

namespace ChangeSet

theorem mapPos_identity {bias : Bias} (size p : Nat) : (identity size).mapPos bias p = p :=
  mapPos_retain empty size p

end ChangeSet

/-- The decoration lies in the text of a block. -/
def Placed.Contains (b : Placed) (x : Decoration) : Prop :=
  b.contentStart ≤ x.start ∧ x.stop ≤ b.contentStop

structure Tidy (type : String) (d : Document) (ds : List Decoration) : Prop where
  apart : ds.Pairwise fun x y => x.stop ≤ y.start
  covers : ∀ x ∈ ds, x.start < x.stop
  labelled : ∀ x ∈ ds, x.labels ≠ []
  inside : ∀ x ∈ ds, ∃ b ∈ d.placed, b.block.type = type ∧ b.Contains x

section

variable {type : String} {d d' : Document} {c : ChangeSet}

theorem tidy_nil (type : String) (d : Document) : Tidy type d [] := by
  constructor <;> simp

theorem Tidy.sorted {ds : List Decoration} (h : Tidy type d ds) :
    ds.Pairwise fun x y => x.start < y.start ∧ x.stop ≤ y.start := by
  refine List.Pairwise.imp_of_mem ?_ h.apart
  intro x y hx hy hxy
  exact ⟨Nat.lt_of_lt_of_le (h.covers x hx) hxy, hxy⟩

/-! ### Computed decorations -/

theorem labels_of_mem_labelledTokens {known : String → Option Grammar} {limits : Limits}
    {language : Option String} {text : String} {t : Token}
    (h : t ∈ labelledTokens known limits language text) : t.labels ≠ [] := by
  unfold labelledTokens at h
  split at h
  · simp at h
  · split at h
    · simp at h
    · split at h
      · simp at h
      · split at h
        · simp at h
        · simpa using (List.mem_filter.mp h).2

theorem tidy_scratch (known : String → Option Grammar) (limits : Limits) (d : Document) :
    Tidy type d (d.scratch type known limits) := by
  constructor
  · exact Document.scratchFrom_pairwise 0 d.blocks
  · exact fun x hx => (Document.bounds_of_mem_scratchFrom hx).2.1
  · intro x hx
    obtain ⟨b, -, -, hxb⟩ := Document.exists_block_of_mem_scratchFrom hx
    obtain ⟨t, ht, rfl⟩ := List.mem_map.mp hxb
    exact labels_of_mem_labelledTokens ht
  · intro x hx
    obtain ⟨b, hb, htype, hxb⟩ := Document.exists_block_of_mem_scratchFrom hx
    obtain ⟨hstart, -, hstop⟩ := b.scratch_inside hxb
    exact ⟨b, hb, htype, hstart, hstop⟩

/-! ### Carried decorations -/

namespace Document

/-- The text of each block of the region type is carried into the text of one such block, or it is
gone as a whole. -/
def Carries (type : String) (d d' : Document) (c : ChangeSet) : Prop :=
  ∀ b ∈ d.placed, b.block.type = type →
    (∃ b' ∈ d'.placed, b'.block.type = type ∧ b'.contentStart ≤ c.mapPos .right b.contentStart ∧
      c.mapPos .left b.contentStop ≤ b'.contentStop) ∨
    c.mapPos .left b.contentStop ≤ c.mapPos .right b.contentStart

end Document

theorem Tidy.map {s : DecorationSet} (h : Tidy type d s.toList) (hc : d.Carries type d' c) :
    Tidy type d' (s.map c).toList := by
  rw [DecorationSet.toList_map h.covers]
  constructor
  · rw [List.pairwise_filterMap]
    refine h.apart.imp ?_
    intro x y hxy x' hx y' hy
    obtain ⟨-, hstop, -⟩ := Decoration.map?_eq_some_iff.mp hx
    obtain ⟨hstart, -⟩ := Decoration.map?_eq_some_iff.mp hy
    rw [hstop, hstart]
    exact c.mapPos_left_le_right hxy
  · intro y hy
    obtain ⟨x, -, hx⟩ := List.mem_filterMap.mp hy
    exact (Decoration.map?_eq_some_iff.mp hx).2.2.2
  · intro y hy
    obtain ⟨x, hmem, hx⟩ := List.mem_filterMap.mp hy
    rw [(Decoration.map?_eq_some_iff.mp hx).2.2.1]
    exact h.labelled x hmem
  · intro y hy
    obtain ⟨x, hmem, hx⟩ := List.mem_filterMap.mp hy
    obtain ⟨hstart, hstop, -, hlt⟩ := Decoration.map?_eq_some_iff.mp hx
    obtain ⟨b, hb, htype, hbx⟩ := h.inside x hmem
    have hleft : c.mapPos .right b.contentStart ≤ y.start := hstart ▸ c.mapPos_mono .right hbx.1
    have hright : y.stop ≤ c.mapPos .left b.contentStop := hstop ▸ c.mapPos_mono .left hbx.2
    rcases hc b hb htype with ⟨b', hb', htype', hfirst, hlast⟩ | hgone
    · exact ⟨b', hb', htype', Nat.le_trans hfirst hleft, Nat.le_trans hright hlast⟩
    · omega

/-! ### Edits -/

namespace Document

section

variable {a m n r p : Nat} {bs : List Block} {b : Placed}

/-- A block before the place of a splice stays where it is. -/
theorem mapPos_before (hb : b ∈ placeFrom p bs) (h : p + sizeOf bs ≤ a) (bias : Bias) :
    (ChangeSet.splice a m n r).mapPos bias b.contentStart = b.contentStart ∧
      (ChangeSet.splice a m n r).mapPos bias b.contentStop = b.contentStop := by
  obtain ⟨-, hend⟩ := bounds_of_mem_placeFrom hb
  have hsize : b.block.size = b.block.length + 2 := rfl
  simp only [Placed.contentStop, Placed.contentStart, ChangeSet.mapPos_splice]
  constructor
  · rw [if_pos (by omega)]
  · rw [if_pos (by omega)]

/-- A block after the place of a splice moves with its text. -/
theorem exists_moved (hb : b ∈ placeFrom p bs) (hp : a + m ≤ p) {q : Nat} (hq : q + m = p + n) :
    ∃ b' ∈ placeFrom q bs, b'.block = b.block ∧
      ∀ bias, (ChangeSet.splice a m n r).mapPos bias b.contentStart = b'.contentStart ∧
        (ChangeSet.splice a m n r).mapPos bias b.contentStop = b'.contentStop := by
  induction bs generalizing p q with
  | nil => simp at hb
  | cons blk bs ih =>
      rcases List.mem_cons.mp hb with rfl | hb
      · refine ⟨⟨q, blk⟩, List.mem_cons_self, rfl, ?_⟩
        intro bias
        have hmoved : ∀ i, (ChangeSet.splice a m n r).mapPos bias (p + 1 + i) = q + 1 + i := by
          intro i
          have hne : p + 1 + i ≠ a := by omega
          rw [ChangeSet.mapPos_splice, if_neg (by omega), if_neg fun h => hne h.1]
          omega
        exact ⟨hmoved 0, hmoved blk.length⟩
      · obtain ⟨b', hb', hrest⟩ := ih (q := q + blk.size) hb (by omega) (by omega)
        exact ⟨b', List.mem_cons_of_mem _ hb', hrest⟩

end

/-- Blocks before and after the place of a splice are carried along, so only those at the place are
left to look at. -/
theorem carries_of_splice (front old new back : List Block) {a m n r : Nat}
    (hd : d.blocks = front ++ (old ++ back)) (hd' : d'.blocks = front ++ (new ++ back))
    (hc : c = ChangeSet.splice a m n r) (ha : sizeOf front ≤ a)
    (hm : a + m ≤ sizeOf front + sizeOf old) (hsize : sizeOf new + m = sizeOf old + n)
    (hplace : ∀ b ∈ placeFrom (sizeOf front) old, b.block.type = type →
      (∃ b' ∈ placeFrom (sizeOf front) new, b'.block.type = type ∧
        b'.contentStart ≤ c.mapPos .right b.contentStart ∧
          c.mapPos .left b.contentStop ≤ b'.contentStop) ∨
      c.mapPos .left b.contentStop ≤ c.mapPos .right b.contentStart) :
    d.Carries type d' c := by
  intro b hb htype
  simp only [placed, hd, hd', placeFrom_append, List.mem_append, Nat.zero_add] at hb ⊢
  rcases hb with hfront | hold | hback
  · have hbefore : 0 + sizeOf front ≤ a := by omega
    obtain ⟨hstart, -⟩ := mapPos_before (m := m) (n := n) (r := r) hfront hbefore .right
    obtain ⟨-, hstop⟩ := mapPos_before (m := m) (n := n) (r := r) hfront hbefore .left
    rw [← hc] at hstart hstop
    exact Or.inl ⟨b, Or.inl hfront, htype, Nat.le_of_eq hstart.symm, Nat.le_of_eq hstop⟩
  · rcases hplace b hold htype with ⟨b', hb', hrest⟩ | hgone
    · exact Or.inl ⟨b', Or.inr (Or.inl hb'), hrest⟩
    · exact Or.inr hgone
  · obtain ⟨b', hb', hblock, hmoved⟩ := exists_moved (a := a) (m := m) (n := n) (r := r) hback hm
      (show sizeOf front + sizeOf new + m = sizeOf front + sizeOf old + n by omega)
    rw [← hc] at hmoved
    exact Or.inl ⟨b', Or.inr (Or.inr hb'), hblock ▸ htype, Nat.le_of_eq (hmoved .right).1.symm,
      Nat.le_of_eq (hmoved .left).2⟩

theorem Edited.carries {target : Option String} (h : Edited d target d' c) :
    d.Carries type d' c := by
  cases h with
  | respelled front b back i j text hd hij hj =>
      have hlength := b.length_splice hij hj text
      refine carries_of_splice front [b] [b.splice i j text] back hd rfl rfl ?_ ?_ ?_ ?_
      · omega
      · simp only [sizeOf_cons, sizeOf_nil, Block.size]
        omega
      · simp only [sizeOf_cons, sizeOf_nil, Block.size]
        omega
      · -- what is left of the text stays between the boundaries of the block
        intro b₀ hb₀ htype
        obtain rfl := List.mem_singleton.mp hb₀
        refine Or.inl ⟨⟨sizeOf front, b.splice i j text⟩, List.mem_cons_self, htype, ?_, ?_⟩
        · simp only [Placed.contentStart, ChangeSet.mapPos_splice_right]
          split <;> omega
        · simp only [Placed.contentStop, Placed.contentStart, ChangeSet.mapPos_splice_left]
          split <;> omega
  | relabelled front b back language hd =>
      have hsize : d.size = sizeOf front + sizeOf (b :: back) := by
        rw [size, hd, sizeOf_append]
      have hc : ChangeSet.identity d.size =
          ChangeSet.splice (sizeOf front) 0 0 (sizeOf (b :: back)) := by
        rw [hsize, ChangeSet.splice_zero_zero]
      refine carries_of_splice front [b] [{ b with language }] back hd rfl hc (Nat.le_refl _)
        (Nat.le_add_right _ _) rfl ?_
      intro b₀ hb₀ htype
      obtain rfl := List.mem_singleton.mp hb₀
      refine Or.inl ⟨⟨sizeOf front, { b with language }⟩, List.mem_cons_self, htype, ?_, ?_⟩
      · exact Nat.le_of_eq (ChangeSet.mapPos_identity _ _).symm
      · exact Nat.le_of_eq (ChangeSet.mapPos_identity _ _)
  | inserted front b back hd =>
      refine carries_of_splice front [] [b] back hd rfl rfl (Nat.le_refl _) (Nat.le_refl _) ?_
        (by simp)
      simp
  | removed front b back hd =>
      refine carries_of_splice front [b] [] back hd rfl rfl (Nat.le_refl _) ?_ ?_ ?_
      · simp
      · simp
      · intro b₀ hb₀ htype
        obtain rfl := List.mem_singleton.mp hb₀
        refine Or.inr ?_
        simp only [Placed.contentStop, Placed.contentStart, ChangeSet.mapPos_splice_left,
          ChangeSet.mapPos_splice_right, Block.size]
        split <;> split <;> omega

end Document

end

end Highlight
