import Highlight.Proofs.ChangeSet.Positions

/-!
# What survives of decorations

A decoration is carried across a change set as long as one position under it is kept.  Its new range
holds the positions that are kept of the old one, and what is inserted between two of them; what is
inserted at its edges stays outside.  So decorations keep their order, and those that were apart
stay apart.
-/

namespace Highlight

namespace Decoration

/-- Some position under the decoration is not deleted. -/
def Survives (rs : List Run) (x : Decoration) : Prop :=
  ∃ p < x.stop, x.start ≤ p ∧ ChangeSet.deletesThrough rs p = false

instance (rs : List Run) : DecidablePred (Survives rs) := fun x =>
  inferInstanceAs
    (Decidable (∃ p < x.stop, x.start ≤ p ∧ ChangeSet.deletesThrough rs p = false))

/-- The labels on the range between the carried ends; insertions at either end are left out. -/
def carried (c : ChangeSet) (x : Decoration) : Decoration :=
  { x with start := c.mapPos .right x.start, stop := c.mapPos .left x.stop }

/-- No position is under both decorations. -/
def Apart (x y : Decoration) : Prop := x.stop ≤ y.start ∨ y.stop ≤ x.start

theorem map?_eq_carried (c : ChangeSet) (x : Decoration) :
    x.map? c = if (x.carried c).start < (x.carried c).stop then some (x.carried c) else none := by
  by_cases h : c.mapPos .right x.start < c.mapPos .left x.stop <;>
    simp [map?, ChangeSet.mapRange, carried, h]

section

variable {rs : List Run} {x y : Decoration}

open ChangeSet

/-- Positions end up apart if one that is kept lies between them. -/
theorem mapPos_lt_of_kept {p q : Nat} (h : p < q) (hkept : deletesThrough rs p = false) :
    (ofRuns rs).mapPos .right p < (ofRuns rs).mapPos .left q :=
  calc (ofRuns rs).mapPos .right p
    _ < (ofRuns rs).mapPos .left (p + 1) := by
      rw [mapPos_left_succ, hkept]
      exact Nat.lt_succ_self _
    _ ≤ (ofRuns rs).mapPos .left q := mapPos_mono _ _ h

theorem mapPos_right_le_left {p q : Nat} (h : p < q) :
    (ofRuns rs).mapPos .right p ≤ (ofRuns rs).mapPos .left q :=
  calc (ofRuns rs).mapPos .right p
    _ ≤ (ofRuns rs).mapPos .left (p + 1) := by
      rw [mapPos_left_succ]
      exact Nat.le_add_right _ _
    _ ≤ (ofRuns rs).mapPos .left q := mapPos_mono _ _ h

/-- A stretch of deleted positions collapses to its start. -/
theorem mapPos_right_of_deleted {p k : Nat}
    (h : ∀ q, p ≤ q → q < p + k → deletesThrough rs q = true) :
    (ofRuns rs).mapPos .right (p + k) = (ofRuns rs).mapPos .right p := by
  induction k with
  | zero => rfl
  | succ k ih =>
      have hlast : deletesThrough rs (p + k) = true := h (p + k) (by omega) (by omega)
      rw [← Nat.add_assoc, mapPos_right_succ_of_deleted hlast]
      exact ih fun q hp hq => h q hp (by omega)

theorem carried_nonempty_iff (hx : x.start < x.stop) :
    (x.carried (ofRuns rs)).start < (x.carried (ofRuns rs)).stop ↔ x.Survives rs := by
  simp only [carried]
  constructor
  · intro h
    by_contra hnone
    -- if nothing is kept under it, its end is carried back to where its start goes
    have hdeleted : ∀ q, x.start ≤ q → q < x.start + (x.stop - x.start) →
        deletesThrough rs q = true := by
      intro q hq hlt
      by_contra hkept
      exact hnone ⟨q, by omega, hq, by simpa using hkept⟩
    have hcollapse := mapPos_right_of_deleted hdeleted
    rw [Nat.add_sub_cancel' (Nat.le_of_lt hx)] at hcollapse
    have hleft := mapPos_left_le_right (ofRuns rs) (Nat.le_refl x.stop)
    omega
  · rintro ⟨p, hp, hstart, hkept⟩
    calc (ofRuns rs).mapPos .right x.start
      _ ≤ (ofRuns rs).mapPos .right p := mapPos_mono _ _ hstart
      _ < (ofRuns rs).mapPos .left x.stop := mapPos_lt_of_kept hp hkept

/-- The new range holds the kept positions of the old one and no others.  A kept position goes where
it is carried leaning to the right, as `getElem?_of_performRuns` says of the entry that is there. -/
theorem kept_under_carried_iff {p : Nat} (hkept : deletesThrough rs p = false) :
    x.start ≤ p ∧ p < x.stop ↔
      (x.carried (ofRuns rs)).start ≤ (ofRuns rs).mapPos .right p ∧
        (ofRuns rs).mapPos .right p < (x.carried (ofRuns rs)).stop := by
  simp only [carried]
  constructor
  · rintro ⟨hstart, hstop⟩
    exact ⟨mapPos_mono _ _ hstart, mapPos_lt_of_kept hstop hkept⟩
  · rintro ⟨hstart, hstop⟩
    constructor
    · by_contra hp
      have hlt : (ofRuns rs).mapPos .right p < (ofRuns rs).mapPos .left x.start :=
        mapPos_lt_of_kept (by omega) hkept
      have hsides := mapPos_left_le_right (ofRuns rs) (Nat.le_refl x.start)
      omega
    · by_contra hp
      have hle := mapPos_left_le_right (ofRuns rs) (Nat.le_of_not_lt hp)
      omega

/-- What is inserted strictly inside the old range is inside the new one. -/
theorem arrival_inside {i : Arrival} (hi : i ∈ arrivals rs) (hstart : x.start < i.place)
    (hstop : i.place < x.stop) :
    (x.carried (ofRuns rs)).start ≤ i.start ∧
      i.start + i.length ≤ (x.carried (ofRuns rs)).stop := by
  obtain ⟨hfirst, hlast⟩ := arrival_between hi
  exact ⟨Nat.le_trans (mapPos_right_le_left hstart) hfirst,
    Nat.le_trans hlast (mapPos_right_le_left hstop)⟩

theorem arrival_outside {i : Arrival} (hi : i ∈ arrivals rs)
    (h : ¬(x.start < i.place ∧ i.place < x.stop)) :
    i.start + i.length ≤ (x.carried (ofRuns rs)).start ∨
      (x.carried (ofRuns rs)).stop ≤ i.start := by
  obtain ⟨hfirst, hlast⟩ := arrival_between hi
  by_cases hstart : x.start < i.place
  · have hstop : x.stop ≤ i.place := by omega
    exact Or.inr (Nat.le_trans (mapPos_mono _ _ hstop) hfirst)
  · exact Or.inl (Nat.le_trans hlast (mapPos_mono _ _ (Nat.le_of_not_lt hstart)))

/-- The labels on the new place of the range in words, unless there is a fault. -/
def mapInWords (c : ChangeSet) (x : Decoration) : Except Fault (Option Decoration) :=
  (c.rangeInWords x.start x.stop).map fun range? =>
    range?.map fun r => { x with start := r.1, stop := r.2 }

/-- The words give the same for a decoration that is as far past the end as the new document leaves
room, and so for each that is inside the document. -/
theorem mapInWords_eq_map? {c : ChangeSet} (hc : buildInWords rs = .ok c) (hx : x.start ≤ x.stop)
    (hstop : c.sizeAfter + (x.stop - c.sizeBefore) ≤ maxPosition) :
    x.mapInWords c = .ok (x.map? c) := by
  rw [mapInWords, rangeInWords_eq_mapRange hc hx hstop]
  rfl

theorem Apart.carried (h : x.Apart y) (c : ChangeSet) : (x.carried c).Apart (y.carried c) :=
  h.imp (fun hxy => c.mapPos_left_le_right hxy) (fun hyx => c.mapPos_left_le_right hyx)

end

end Decoration

namespace DecorationSet

def Ascending (s : DecorationSet) : Prop := s.toList.Pairwise fun x y => x.start ≤ y.start

theorem ascending_ofList (ds : List Decoration) : (ofList ds).Ascending := by
  have htrans : ∀ x y z : Decoration, x.le y → y.le z → x.le z := by
    intro x y z hxy hyz
    simp [Decoration.le] at *
    omega
  have htotal : ∀ x y : Decoration, x.le y || y.le x := by
    intro x y
    simp [Decoration.le]
    omega
  refine (List.pairwise_mergeSort htrans htotal ds).imp ?_
  intro x y hxy
  simp [Decoration.le] at hxy
  omega

theorem toList_map_eq_carried (rs : List Run) {s : DecorationSet}
    (hs : ∀ x ∈ s.toList, x.start < x.stop) :
    (s.map (.ofRuns rs)).toList =
      (s.toList.filter fun x => decide (x.Survives rs)).map (Decoration.carried (.ofRuns rs)) := by
  rw [toList_map hs, ← List.filterMap_eq_map, ← List.filterMap_eq_filter, List.filterMap_filterMap]
  apply List.filterMap_congr
  intro x hx
  rw [Decoration.map?_eq_carried, if_congr (Decoration.carried_nonempty_iff (hs x hx)) rfl rfl]
  by_cases hsurvives : x.Survives rs <;> simp [Option.guard, hsurvives]

/-- The decorations after a change in words, unless there is a fault. -/
def mapInWords (s : DecorationSet) (c : ChangeSet) : Except ChangeSet.Fault DecorationSet :=
  if c.isIdentity then .ok s
  else (s.toList.mapM (Decoration.mapInWords c)).map fun xs => ⟨xs.filterMap id⟩

theorem mapInWords_eq_map {calls : List Run} {c : ChangeSet}
    (hc : ChangeSet.buildInWords calls = .ok c) {s : DecorationSet}
    (hs : ∀ x ∈ s.toList, x.start ≤ x.stop ∧ c.sizeAfter + (x.stop - c.sizeBefore) ≤ maxPosition) :
    s.mapInWords c = .ok (s.map c) := by
  have hall : ∀ xs : List Decoration, (∀ x ∈ xs, x ∈ s.toList) →
      xs.mapM (Decoration.mapInWords c) = .ok (xs.map (Decoration.map? c)) := by
    intro xs hxs
    induction xs with
    | nil => rfl
    | cons x xs ih =>
        obtain ⟨hx, hxs⟩ := List.forall_mem_cons.mp hxs
        rw [List.mapM_cons, ih hxs, Decoration.mapInWords_eq_map? hc (hs x hx).1 (hs x hx).2]
        rfl
  rw [mapInWords, map]
  split
  · rfl
  · rw [hall s.toList fun x hx => hx]
    simp [Except.map, List.filterMap_map]

/-- Decorations that cover something are carried exactly with what survives of their content.  Those
stay, with their labels and in their order, that cover a position that is not deleted.  A position
that is kept is under a decoration afterwards if and only if it was before; an insertion is wholly
under it if its place is strictly inside the old range, and not at all otherwise.  So starts stay in
order, decorations that are apart stay apart, those inside the document stay inside, and it does not
matter that a change set which moves nothing is not looked at any further. -/
theorem map_keeps_what_survives (calls : List Run) (s : DecorationSet)
    (hs : ∀ x ∈ s.toList, x.start < x.stop) :
    let c := ChangeSet.ofRuns calls
    (s.map c).toList =
      (s.toList.filter fun x => decide (x.Survives calls)).map (Decoration.carried c) ∧
    (∀ x ∈ s.toList, x.Survives calls →
      let y := x.carried c
      y.start < y.stop ∧
      (∀ p, ChangeSet.deletesThrough calls p = false →
        (x.start ≤ p ∧ p < x.stop ↔ y.start ≤ c.mapPos .right p ∧ c.mapPos .right p < y.stop)) ∧
      ∀ i ∈ ChangeSet.arrivals calls ++ ChangeSet.arrivals c.runs,
        if x.start < i.place ∧ i.place < x.stop then y.start ≤ i.start ∧ i.start + i.length ≤ y.stop
        else i.start + i.length ≤ y.start ∨ y.stop ≤ i.start) ∧
    ((∀ ds, s = ofList ds → s.Ascending) ∧ (s.Ascending → (s.map c).Ascending)) ∧
    (s.toList.Pairwise Decoration.Apart → (s.map c).toList.Pairwise Decoration.Apart) ∧
    ((∀ x ∈ s.toList, x.stop ≤ c.sizeBefore) → ∀ y ∈ (s.map c).toList, y.stop ≤ c.sizeAfter) ∧
    (s.map c).toList = s.toList.filterMap (Decoration.map? c) := by
  intro c
  have hmap : (s.map c).toList =
      (s.toList.filter fun x => decide (x.Survives calls)).map (Decoration.carried c) :=
    toList_map_eq_carried calls hs
  refine ⟨hmap, ?_, ⟨?_, ?_⟩, ?_, ?_, toList_map hs c⟩
  · intro x hx hsurvives y
    refine ⟨(Decoration.carried_nonempty_iff (hs x hx)).mpr hsurvives,
      fun p hkept => Decoration.kept_under_carried_iff hkept, ?_⟩
    intro i hi
    -- the runs build the same change set, so what is said of calls holds of them as well
    have hbuilt : ∃ rs, ChangeSet.ofRuns rs = c ∧ i ∈ ChangeSet.arrivals rs := by
      rcases List.mem_append.mp hi with hi | hi
      · exact ⟨calls, rfl, hi⟩
      · exact ⟨c.runs, ChangeSet.ofRuns_runs calls, hi⟩
    obtain ⟨rs, hc, hi⟩ := hbuilt
    have hy : y = x.carried (ChangeSet.ofRuns rs) := by rw [hc]
    rw [hy]
    split
    · exact Decoration.arrival_inside hi (And.left ‹_›) (And.right ‹_›)
    · exact Decoration.arrival_outside hi ‹_›
  · rintro ds rfl
    exact ascending_ofList ds
  · intro hascending
    rw [Ascending, hmap, List.pairwise_map]
    exact (hascending.filter _).imp fun hxy => c.mapPos_mono .right hxy
  · intro hapart
    rw [hmap, List.pairwise_map]
    exact (hapart.filter _).imp fun hxy => hxy.carried c
  · intro hinside y hy
    rw [hmap] at hy
    obtain ⟨x, hx, rfl⟩ := List.mem_map.mp hy
    exact ChangeSet.mapPos_le_sizeAfter calls .left (hinside x (List.mem_of_mem_filter hx))

/-- A decoration takes in what replaces its tail, and the next one what is inserted in it; of a
third one everything is deleted, and the last lies past the end. -/
theorem replacement_over_the_tail_of_a_decoration :
    let calls : List Run :=
      [.retain 3, .delete 2, .insert 3, .retain 2, .insert 1, .retain 2, .delete 2, .retain 1]
    let c := ChangeSet.ofRuns calls
    let s : DecorationSet := ⟨[⟨1, 5, ["a"]⟩, ⟨5, 9, ["b", "bb"]⟩, ⟨9, 11, ["c"]⟩, ⟨12, 14, ["d"]⟩]⟩
    (∀ x ∈ s.toList, x.start < x.stop) ∧
      (s.map c).toList = [⟨1, 6, ["a"]⟩, ⟨6, 11, ["b", "bb"]⟩, ⟨12, 14, ["d"]⟩] ∧
      s.Ascending ∧ (s.map c).Ascending ∧ s.toList.Pairwise Decoration.Apart ∧
      (s.map c).toList.Pairwise Decoration.Apart := by
  intro calls c s
  have hs : ∀ x ∈ s.toList, x.start < x.stop := by decide
  have hsorted : s.Ascending := by simp [Ascending, s]
  have hapart : s.toList.Pairwise Decoration.Apart := by simp [Decoration.Apart, s]
  obtain ⟨hmap, -, ⟨-, hascending⟩, hdisjoint, -⟩ := map_keeps_what_survives calls s hs
  refine ⟨hs, ?_, hsorted, hascending hsorted, hapart, hdisjoint hapart⟩
  rw [hmap]
  decide +kernel

end DecorationSet

end Highlight
