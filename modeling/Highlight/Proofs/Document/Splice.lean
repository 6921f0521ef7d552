import Highlight.Decoration
import Highlight.Proofs.ChangeSet.Readings
import Mathlib.Data.List.Basic

/-!
# Splices

The change set of an edit puts some positions in place of others at one place.  What stands before
the place keeps its position, what stands after it moves by the difference, and a range that was
taken out has no position any more.  Runs without length and a final run that keeps its positions do
not matter.
-/

namespace Highlight

namespace ChangeSet

variable {bias : Bias}

theorem mapThrough_addRetain (n : Nat) (rs : List Run) (p : Nat) :
    mapThrough bias (addRetain n rs) p = mapThrough bias rs p := by
  fun_induction addRetain n rs generalizing p with
  | case1 =>
      simp only [mapThrough]
      split <;> omega
  | case2 m =>
      simp only [mapThrough]
      split <;> split <;> omega
  | case3 r rs hne ih =>
      cases r <;> simp only [mapThrough, ih]

theorem mapThrough_of_isRetain {rs : List Run} (h : rs.all Run.isRetain = true) (p : Nat) :
    mapThrough bias rs p = p := by
  induction rs generalizing p with
  | nil => rfl
  | cons r rs ih =>
      obtain ⟨hr, hrs⟩ : r.isRetain = true ∧ rs.all Run.isRetain = true := by simpa using h
      cases r with
      | retain n =>
          simp only [mapThrough, ih hrs]
          split <;> omega
      | delete n => simp [Run.isRetain] at hr
      | insert n => simp [Run.isRetain] at hr

theorem mapPos_retain (c : ChangeSet) (n p : Nat) :
    (c.retain n).mapPos bias p = c.mapPos bias p := by
  unfold retain
  split
  · rfl
  · exact mapThrough_addRetain n c.runs p

/-- Puts `n` positions in place of the `m` that follow the first `a`; `r` positions come after
them. -/
def splice (a m n r : Nat) : ChangeSet :=
  (((empty.retain a).delete m).insert n).retain r

/-- Whatever its lengths, a splice moves positions as its three runs do. -/
theorem mapPos_splice_runs (a m n r p : Nat) :
    (splice a m n r).mapPos bias p = mapThrough bias [.retain a, .insert n, .delete m] p := by
  rw [splice, mapPos_retain]
  by_cases ha : a = 0 <;> by_cases hm : m = 0 <;> by_cases hn : n = 0 <;>
    simp [mapPos, mapThrough, empty, retain, delete, insert, addRetain, addDelete, addInsert, ha,
      hm, hn]

theorem mapPos_splice (a m n r p : Nat) :
    (splice a m n r).mapPos bias p =
      if p < a then p else a + (if p = a ∧ bias = .left then 0 else n) + (p - a - m) := by
  rw [mapPos_splice_runs]
  simp only [mapThrough]
  have hat : p - a = 0 ∧ bias = .left ↔ p ≤ a ∧ bias = .left := by
    rw [Nat.sub_eq_zero_iff_le]
  by_cases hp : p < a
  · simp [hp]
  · have heq : p = a ↔ p ≤ a := by omega
    simp only [hp, hat, heq, if_false]
    split <;> split <;> omega

theorem mapPos_splice_left (a m n r p : Nat) :
    (splice a m n r).mapPos .left p = if p ≤ a then p else a + n + (p - a - m) := by
  rw [mapPos_splice]
  by_cases hp : p = a
  · simp [hp]
  · simp only [hp, false_and, if_false]
    split <;> split <;> omega

theorem mapPos_splice_right (a m n r p : Nat) :
    (splice a m n r).mapPos .right p = if p < a then p else a + n + (p - a - m) := by
  simp [mapPos_splice]

/-- Behind the place of a splice both sides of a position move alike. -/
theorem mapPos_splice_past {a m p : Nat} (n r : Nat) (ha : a < p) (hm : a + m ≤ p) :
    (splice a m n r).mapPos bias p = p - m + n := by
  have hne : p ≠ a := Nat.ne_of_gt ha
  rw [mapPos_splice, if_neg (Nat.not_lt.mpr (Nat.le_of_lt ha)), if_neg (fun h => hne h.1)]
  omega

end ChangeSet

namespace Decoration

variable {a m n r : Nat} {x : Decoration}

theorem map?_eq_some_iff {c : ChangeSet} {y : Decoration} :
    x.map? c = some y ↔
      y.start = c.mapPos .right x.start ∧ y.stop = c.mapPos .left x.stop ∧ y.labels = x.labels ∧
        y.start < y.stop := by
  simp only [map?, ChangeSet.mapRange]
  split
  · rename_i hlt
    constructor
    · intro h
      obtain rfl := Option.some.inj h
      exact ⟨rfl, rfl, rfl, hlt⟩
    · rintro ⟨hstart, hstop, hlabels, -⟩
      cases y
      simp_all
  · rename_i hlt
    constructor
    · simp
    · rintro ⟨hstart, hstop, -, hy⟩
      exact absurd (hstart ▸ hstop ▸ hy) hlt

theorem map?_of_isIdentity {c : ChangeSet} (h : c.isIdentity = true) (hx : x.start < x.stop) :
    x.map? c = some x := by
  have hpos : ∀ bias p, c.mapPos bias p = p := fun _ p => ChangeSet.mapThrough_of_isRetain h p
  simp [map?, ChangeSet.mapRange, hpos, hx]

theorem map?_splice_before (hx : x.start < x.stop) (h : x.stop < a) :
    x.map? (ChangeSet.splice a m n r) = some x := by
  have hstart : x.start < a := Nat.lt_trans hx h
  simp [map?, ChangeSet.mapRange, ChangeSet.mapPos_splice, hstart, h, hx]

theorem map?_splice_after (hx : x.start < x.stop) (ha : a < x.start) (hm : a + m ≤ x.start) :
    x.map? (ChangeSet.splice a m n r) =
      some { x with start := x.start - m + n, stop := x.stop - m + n } := by
  have hstop : a < x.stop ∧ a + m ≤ x.stop := by omega
  have hlt : x.start - m + n < x.stop - m + n := by omega
  simp [map?, ChangeSet.mapRange, ChangeSet.mapPos_splice_past n r ha hm,
    ChangeSet.mapPos_splice_past n r hstop.1 hstop.2, hlt]

/-- What a splice takes out is gone. -/
theorem map?_splice_inside (ha : a ≤ x.start) (hm : x.stop ≤ a + m) (hx : x.start < x.stop) :
    x.map? (ChangeSet.splice a m 0 r) = none := by
  have hstart : (ChangeSet.splice a m 0 r).mapPos .right x.start = a := by
    rw [ChangeSet.mapPos_splice, if_neg (Nat.not_lt.mpr ha), if_neg (by simp)]
    omega
  have hstop : (ChangeSet.splice a m 0 r).mapPos .left x.stop = a := by
    rw [ChangeSet.mapPos_splice, if_neg (by omega), ite_self]
    omega
  simp [map?, ChangeSet.mapRange, hstart, hstop]

end Decoration

/-- Decorations that cover something are carried across one by one. -/
theorem DecorationSet.toList_map {s : DecorationSet} (h : ∀ x ∈ s.toList, x.start < x.stop)
    (c : ChangeSet) : (s.map c).toList = s.toList.filterMap (Decoration.map? c) := by
  unfold DecorationSet.map
  split
  · rename_i hc
    have hid : ∀ x ∈ s.toList, Decoration.map? c x = some x :=
      fun x hx => Decoration.map?_of_isIdentity hc (h x hx)
    rw [List.filterMap_congr hid, List.filterMap_some]
  · rfl

end Highlight
