import Highlight.Pass
import Highlight.Proofs.Document.Edits

/-!
# Regions and the focus

The place of an edit tells whether it changes the text of a region: a position is in a block of the
region type if and only if it is in the text of a region, edges included.  Such an edit changes the
text of that region and no other, and every other edit moves the regions as its change set says.  So
a host that reports the place of a replacement as its focus has the decorations computed anew
whenever code has changed.
-/

namespace Highlight

namespace Region

/-- The region with its positions carried across a change set. -/
def moved (c : ChangeSet) (bias : Bias) (r : Region) : Region :=
  { r with
    pos := c.mapPos bias r.pos
    start := c.mapPos bias r.start
    stop := c.mapPos bias r.stop }

/-- The region with a text in place of the characters between two positions. -/
def respelled (r : Region) (start stop : Nat) (text : String) : Region :=
  let cs := r.text.toList
  { r with
    stop := r.stop - (stop - start) + text.length
    text := .ofList (cs.take (start - r.start) ++ text.toList ++ cs.drop (stop - r.start)) }

theorem respelled_ofPlaced (p : Nat) (b : Block) {i j : Nat} (hij : i ≤ j) (hj : j ≤ b.length)
    (text : String) :
    (ofPlaced ⟨p, b⟩).respelled (p + 1 + i) (p + 1 + j) text = ofPlaced ⟨p, b.splice i j text⟩ := by
  have hlength : (b.splice i j text).text.length + (j - i) = b.text.length + text.length :=
    b.length_splice hij hj text
  have hlast : j ≤ b.text.length := hj
  simp only [respelled, ofPlaced, Placed.contentStart, Nat.add_sub_cancel_left, Region.mk.injEq]
  refine ⟨rfl, trivial, trivial, ?_, rfl, rfl⟩
  omega

end Region

theorem Phase.decide_eq_regionEdited_iff (phase : Phase) (f : ChangeFacts) :
    phase.decide f = .recompute .regionEdited ↔
      f.externalSync = false ∧ f.docChanged = true ∧ f.touchesRegion = true := by
  unfold decide
  cases f.externalSync with
  | true => simp
  | false => cases f.docChanged <;> cases f.touchesRegion <;> cases phase <;> simp

/-- What a host reports of an edit when its focus is at the place of the edit, before and after
it. -/
def Change.at (place : Nat) (d d' : Document) (c : ChangeSet) : Change where
  doc := d'
  docChanged := true
  focusBefore := d.typeAt place
  focusAfter := d'.typeAt place
  mapping := some c

namespace Scanner

/-- The regions of blocks of which the first is at `p`. -/
def scanFrom (s : Scanner) (p : Nat) (bs : List Block) : List Region :=
  ((Document.placeFrom p bs).filter (·.block.type == s.type)).map Region.ofPlaced

variable {s : Scanner} {bs : List Block} {d d' : Document} {c : ChangeSet}

theorem scanFrom_zero (s : Scanner) (d : Document) : s.scanFrom 0 d.blocks = s.scan d := rfl

theorem scanFrom_append (s : Scanner) (p : Nat) (xs ys : List Block) :
    s.scanFrom p (xs ++ ys) = s.scanFrom p xs ++ s.scanFrom (p + Document.sizeOf xs) ys := by
  simp [scanFrom, Document.placeFrom_append]

theorem scanFrom_cons (s : Scanner) (p : Nat) (b : Block) (bs : List Block) :
    s.scanFrom p (b :: bs) =
      (if b.type = s.type then [Region.ofPlaced ⟨p, b⟩] else []) ++ s.scanFrom (p + b.size) bs := by
  by_cases h : b.type = s.type <;> simp [scanFrom, h]

theorem scanFrom_split (s : Scanner) {front back : List Block} {b : Block}
    (hd : d.blocks = front ++ b :: back) :
    s.scan d = s.scanFrom 0 front ++
      ((if b.type = s.type then [Region.ofPlaced ⟨Document.sizeOf front, b⟩] else []) ++
        s.scanFrom (Document.sizeOf front + b.size) back) := by
  rw [← scanFrom_zero, hd, scanFrom_append, scanFrom_cons, Nat.zero_add]

theorem mem_scan_iff {r : Region} :
    r ∈ s.scan d ↔ ∃ b ∈ d.placed, b.block.type = s.type ∧ Region.ofPlaced b = r := by
  simp [scan, and_assoc]

/-- A position in a block of the region type is a position in a region. -/
theorem isRegionType_typeAt_iff (s : Scanner) (d : Document) (p : Nat) :
    s.isRegionType (d.typeAt p) = true ↔ ∃ r ∈ s.scan d, r.start ≤ p ∧ p ≤ r.stop := by
  have hholds : ∀ b : Placed, b.holds p = true ↔
      (Region.ofPlaced b).start ≤ p ∧ p ≤ (Region.ofPlaced b).stop := fun b => Document.holds_iff
  constructor
  · intro h
    obtain ⟨b, hb, htype⟩ : ∃ b, d.blockAt p = some b ∧ b.block.type = s.type := by
      simpa [isRegionType, Document.typeAt] using h
    have hmem := List.mem_of_find?_eq_some hb
    have hp : b.holds p = true := (List.find?_eq_some_iff_getElem.mp hb).1
    exact ⟨Region.ofPlaced b, mem_scan_iff.mpr ⟨b, hmem, htype, rfl⟩, (hholds b).mp hp⟩
  · rintro ⟨r, hr, hp⟩
    obtain ⟨b, hb, htype, rfl⟩ := mem_scan_iff.mp hr
    obtain ⟨i, hi⟩ := List.getElem?_of_mem hb
    have hlocate := Document.locate_eq_some_iff.mpr ⟨hi, (hholds b).mpr hp⟩
    rw [isRegionType, Document.typeAt_of_locate hlocate, htype]
    exact beq_self_eq_true _

theorem scan_pairwise (s : Scanner) (d : Document) :
    (s.scan d).Pairwise fun r q => r.stop < q.start := by
  rw [scan, List.pairwise_map]
  refine ((Document.pairwise_placeFrom 0 d.blocks).filter _).imp ?_
  intro b q h
  simp only [Region.ofPlaced, Placed.contentStart, Block.size, Block.length] at h ⊢
  omega

/-- Blocks that move as a whole take their regions along. -/
theorem map_moved_scanFrom {bias : Bias} {p q : Nat}
    (h : ∀ k < Document.sizeOf bs, c.mapPos bias (p + k) = q + k) :
    (s.scanFrom p bs).map (Region.moved c bias) = s.scanFrom q bs := by
  induction bs generalizing p q with
  | nil => rfl
  | cons b bs ih =>
      have hsize : b.size = b.text.length + 2 := rfl
      rw [Document.sizeOf_cons] at h
      have hhead : (Region.ofPlaced ⟨p, b⟩).moved c bias = Region.ofPlaced ⟨q, b⟩ := by
        have hpos := h 0 (by omega)
        have hstart := h 1 (by omega)
        have hstop := h (1 + b.text.length) (by omega)
        simp only [Nat.add_zero, ← Nat.add_assoc] at hpos hstop
        simp [Region.moved, Region.ofPlaced, Placed.contentStart, hpos, hstart, hstop]
      have htail : (s.scanFrom (p + b.size) bs).map (Region.moved c bias) =
          s.scanFrom (q + b.size) bs := by
        apply ih
        intro k hk
        rw [Nat.add_assoc, Nat.add_assoc]
        exact h (b.size + k) (by omega)
      rw [scanFrom_cons, scanFrom_cons, List.map_append, htail]
      split
      · rw [List.map_singleton, hhead]
      · rw [List.map_nil]

/-- The block that a replacement changes still holds the place of the replacement. -/
theorem typeAt_replace {start stop : Nat} {text : String}
    (h : d.replace start stop text = .ok (d', c)) : d'.typeAt start = d.typeAt start := by
  obtain ⟨front, b, back, i, j, -, hij, hj, rfl, -, htype, rfl, -⟩ := Document.replace_split h
  have hlength := b.length_splice hij hj text
  have hplaced : (Document.mk (front ++ b.splice i j text :: back)).placed[front.length]? =
      some ⟨Document.sizeOf front, b.splice i j text⟩ := by
    rw [Document.placed, Document.getElem?_placeFrom]
    simp
  have hholds : Placed.holds ⟨Document.sizeOf front, b.splice i j text⟩
      (Document.sizeOf front + 1 + i) = true :=
    Document.holds_iff.mpr ⟨Nat.le_add_right _ _, Nat.add_le_add_left (by simp only; omega) _⟩
  rw [htype, Document.typeAt_of_locate (Document.locate_eq_some_iff.mpr ⟨hplaced, hholds⟩)]
  rfl

/-- Regions on both sides of a replacement move as its change set says. -/
theorem scan_replace (s : Scanner) {start stop : Nat} {text : String}
    (h : d.replace start stop text = .ok (d', c)) :
    ∃ before b after, d.typeAt start = some b.block.type ∧ b.pos + 1 ≤ start ∧ start ≤ stop ∧
      stop ≤ b.pos + 1 + b.block.length ∧
      s.scan d = before ++
        ((if b.block.type = s.type then [Region.ofPlaced b] else []) ++ after) ∧
      ∀ bias, s.scan d' = before.map (Region.moved c bias) ++
        ((if b.block.type = s.type then [(Region.ofPlaced b).respelled start stop text] else []) ++
          after.map (Region.moved c bias)) := by
  obtain ⟨front, b, back, i, j, hd, hij, hj, hstart, hstop, htype, rfl, hc⟩ :=
    Document.replace_split h
  have hlength := b.length_splice hij hj text
  have hsize : b.size = b.length + 2 := rfl
  have hsize' : (b.splice i j text).size = (b.splice i j text).length + 2 := rfl
  have hfront : ∀ bias, (s.scanFrom 0 front).map (Region.moved c bias) = s.scanFrom 0 front := by
    intro bias
    apply map_moved_scanFrom
    intro k hk
    rw [hc, ChangeSet.mapPos_splice, if_pos (by omega)]
  have hback :
      ∀ bias, (s.scanFrom (Document.sizeOf front + b.size) back).map (Region.moved c bias) =
      s.scanFrom (Document.sizeOf front + (b.splice i j text).size) back := by
    intro bias
    apply map_moved_scanFrom
    intro k hk
    rw [hc, ChangeSet.mapPos_splice_past _ _ (by omega) (by omega)]
    omega
  refine ⟨s.scanFrom 0 front, ⟨Document.sizeOf front, b⟩,
    s.scanFrom (Document.sizeOf front + b.size) back, htype, by simp only; omega, by omega,
    by simp only; omega, s.scanFrom_split hd, fun bias => ?_⟩
  rw [hfront, hback, hstart, hstop, Region.respelled_ofPlaced _ b hij hj text]
  exact s.scanFrom_split rfl

/-- The place of an edit tells whether it changes code.  A position is in a block of the region type
if and only if it is in the text of a region, edges included; the regions come in document order,
apart from each other, and take up their texts.  A replacement leaves the type of the block at its
start.  If that is the region type, the text of the region there changes and no other; if not, all
regions keep their texts.  Those that keep them move as the change set says, whichever side a
position leans to.  So a host that reports the start as its focus has the decorations computed anew
if and only if the text of a region changes. -/
theorem focus_notices_every_region_edit (s : Scanner) (d : Document) :
    (∀ p, s.isRegionType (d.typeAt p) = true ↔ ∃ r ∈ s.scan d, r.start ≤ p ∧ p ≤ r.stop) ∧
    ((s.scan d).Pairwise fun r q => r.stop < q.start) ∧
    (∀ r ∈ s.scan d, r.start ≤ r.stop ∧ r.stop - r.start = r.text.length) ∧
    ∀ start stop text d' c, d.replace start stop text = .ok (d', c) →
      s.isRegionType (d'.typeAt start) = s.isRegionType (d.typeAt start) ∧
      (s.isRegionType (d.typeAt start) = true → ∃ before r after, s.scan d = before ++ r :: after ∧
        r.start ≤ start ∧ start ≤ stop ∧ stop ≤ r.stop ∧
        ∀ bias, s.scan d' = before.map (Region.moved c bias) ++
          r.respelled start stop text :: after.map (Region.moved c bias)) ∧
      (s.isRegionType (d.typeAt start) = false →
        ∀ bias, s.scan d' = (s.scan d).map (Region.moved c bias)) ∧
      ∀ phase : Phase, phase.decide ((Change.at start d d' c).facts s) = .recompute .regionEdited ↔
        s.isRegionType (d.typeAt start) = true := by
  refine ⟨s.isRegionType_typeAt_iff d, s.scan_pairwise d, ?_, ?_⟩
  · intro r hr
    obtain ⟨b, -, -, rfl⟩ := mem_scan_iff.mp hr
    exact ⟨Nat.le_add_right _ _, Nat.add_sub_cancel_left _ _⟩
  · intro start stop text d' c h
    obtain ⟨before, b, after, htype, hstart, horder, hstop, hscan, hscan'⟩ := s.scan_replace h
    have hregion : s.isRegionType (d.typeAt start) = true ↔ b.block.type = s.type := by
      simp [isRegionType, htype]
    refine ⟨by rw [typeAt_replace h], ?_, ?_, fun phase => ?_⟩
    · intro hfocus
      simp only [if_pos (hregion.mp hfocus)] at hscan hscan'
      exact ⟨before, Region.ofPlaced b, after, hscan, hstart, horder, hstop, hscan'⟩
    · intro hfocus bias
      have hb : ¬ b.block.type = s.type := by
        rw [← hregion, hfocus]
        exact Bool.false_ne_true
      simp only [if_neg hb, List.nil_append] at hscan hscan'
      rw [hscan, hscan', List.map_append]
    · rw [Phase.decide_eq_regionEdited_iff]
      simp [Change.facts, Change.at, typeAt_replace h]

/-- A letter comes in at the left edge of a region, and one at the right edge of the paragraph in
front. -/
theorem focus_at_the_edge_of_a_region :
    let s : Scanner := {}
    let p : Block := { id := 1, type := "paragraph", text := "π" }
    let b : Block := { id := 2, language := some "x", text := "ab" }
    let e : Block := { id := 3, text := "" }
    let d : Document := ⟨[p, b, e]⟩
    let inside : Document := ⟨[p, { b with text := "éab" }, e]⟩
    let beside : Document := ⟨[{ p with text := "πé" }, b, e]⟩
    let c : ChangeSet := ⟨[.retain 4, .insert 1, .retain 5], 9, 10⟩
    let c' : ChangeSet := ⟨[.retain 2, .insert 1, .retain 7], 9, 10⟩
    d.replace 4 4 "é" = .ok (inside, c) ∧ s.isRegionType (d.typeAt 4) = true ∧
      (∃ before r after, s.scan d = before ++ r :: after ∧ r.start ≤ 4 ∧ 4 ≤ r.stop ∧
        s.scan inside = before.map (Region.moved c .right) ++
          r.respelled 4 4 "é" :: after.map (Region.moved c .right)) ∧
      d.replace 2 2 "é" = .ok (beside, c') ∧ s.isRegionType (d.typeAt 2) = false ∧
      s.scan beside = (s.scan d).map (Region.moved c' .left) := by
  intro s p b e d inside beside c c'
  have hinside : d.replace 4 4 "é" = .ok (inside, c) := by decide +kernel
  have hbeside : d.replace 2 2 "é" = .ok (beside, c') := by decide +kernel
  have hfocus : s.isRegionType (d.typeAt 4) = true ∧ s.isRegionType (d.typeAt 2) = false := by
    decide +kernel
  obtain ⟨-, -, -, hreplace⟩ := focus_notices_every_region_edit s d
  obtain ⟨-, hcode, -, -⟩ := hreplace 4 4 "é" inside c hinside
  obtain ⟨-, -, hother, -⟩ := hreplace 2 2 "é" beside c' hbeside
  obtain ⟨before, r, after, hscan, hstart, -, hstop, hscan'⟩ := hcode hfocus.1
  exact ⟨hinside, hfocus.1, ⟨before, r, after, hscan, hstart, hstop, hscan' .right⟩, hbeside,
    hfocus.2, hother hfocus.2 .left⟩

end Scanner

end Highlight
