import Highlight.Proofs.ChangeSet.Arrivals
import Highlight.Proofs.ChangeSet.NormalForm

/-!
# Where positions go

A position is carried across a change set to the number of old positions below it that are kept, and
of those that are inserted below it; an insertion at the position itself counts if the position
leans to the right.  Each call of the builder changes the map in the way that this number asks for,
and so the map has this form whatever the calls are.
-/

namespace Highlight.ChangeSet

variable {bias : Bias}

/-! ### Order -/

theorem mapThrough_mono {bias : Bias} (rs : List Run) {p q : Nat} (h : p ≤ q) :
    mapThrough bias rs p ≤ mapThrough bias rs q := by
  induction rs generalizing p q with
  | nil => exact h
  | cons run rs ih =>
      cases run with
      | retain n =>
          have hrest := ih (Nat.sub_le_sub_right h n)
          simp only [mapThrough]
          split <;> split <;> omega
      | delete n =>
          have hrest := ih (Nat.sub_le_sub_right h n)
          simp only [mapThrough]
          split <;> split <;> omega
      | insert n =>
          have hrest := ih h
          simp only [mapThrough]
          by_cases hq : q = 0 ∧ bias = .left
          · have hp : p = 0 ∧ bias = .left := ⟨by omega, hq.2⟩
            rw [if_pos hp, if_pos hq]
            exact hrest
          · rw [if_neg hq]
            split <;> omega

/-- A position that leans to the left ends up no further than one that leans to the right. -/
theorem mapThrough_left_le_right (rs : List Run) (p : Nat) :
    mapThrough .left rs p ≤ mapThrough .right rs p := by
  induction rs generalizing p with
  | nil => exact Nat.le_refl p
  | cons run rs ih =>
      cases run with
      | retain n =>
          have hrest := ih (p - n)
          simp only [mapThrough]
          split <;> omega
      | delete n =>
          have hrest := ih (p - n)
          simp only [mapThrough]
          split <;> omega
      | insert n =>
          have hrest := ih p
          simp only [mapThrough]
          split <;> simp <;> omega

theorem mapPos_mono (c : ChangeSet) (bias : Bias) {p q : Nat} (h : p ≤ q) :
    c.mapPos bias p ≤ c.mapPos bias q :=
  mapThrough_mono c.runs h

theorem mapPos_left_le_right (c : ChangeSet) {p q : Nat} (h : p ≤ q) :
    c.mapPos .left p ≤ c.mapPos .right q :=
  Nat.le_trans (mapThrough_left_le_right c.runs p) (c.mapPos_mono .right h)

/-- Behind the last run positions go on from the end. -/
theorem mapThrough_right_end (rs : List Run) (k : Nat) :
    mapThrough .right rs (oldLength rs + k) = newLength rs + k := by
  induction rs with
  | nil => rfl
  | cons r rs ih =>
      cases r with
      | retain n =>
          have hpast : n + oldLength rs + k - n = oldLength rs + k := by omega
          rw [oldLength_retain, newLength_retain, mapThrough, if_neg (by omega), hpast, ih,
            Nat.add_assoc]
      | delete n =>
          have hpast : n + oldLength rs + k - n = oldLength rs + k := by omega
          rw [oldLength_delete, newLength_delete, mapThrough, if_neg (by omega), hpast, ih]
      | insert n =>
          rw [oldLength_insert, newLength_insert, mapThrough, if_neg (by simp), ih, Nat.add_assoc]

theorem mapPos_right_end (rs : List Run) (k : Nat) :
    (ofRuns rs).mapPos .right ((ofRuns rs).sizeBefore + k) = (ofRuns rs).sizeAfter + k := by
  rw [(sizes_eq_of_runs rs).1, (sizes_eq_of_runs rs).2]
  exact mapThrough_right_end _ k

theorem mapPos_le_sizeAfter (rs : List Run) (bias : Bias) {p : Nat}
    (h : p ≤ (ofRuns rs).sizeBefore) : (ofRuns rs).mapPos bias p ≤ (ofRuns rs).sizeAfter := by
  have hright : (ofRuns rs).mapPos .right p ≤ (ofRuns rs).sizeAfter :=
    calc (ofRuns rs).mapPos .right p
      _ ≤ (ofRuns rs).mapPos .right (ofRuns rs).sizeBefore := mapPos_mono _ _ h
      _ = (ofRuns rs).sizeAfter := mapPos_right_end rs 0
  cases bias with
  | left => exact Nat.le_trans (mapPos_left_le_right _ (Nat.le_refl p)) hright
  | right => exact hright

/-! ### What a call does to the map -/

/-- The positions that a deletion at the end takes out no longer count. -/
theorem mapThrough_addDelete (n : Nat) (rs : List Run) (p : Nat) :
    mapThrough bias (addDelete n rs) p + min n (p - oldLength rs) = mapThrough bias rs p := by
  fun_induction ChangeSet.addDelete n rs generalizing p with
  | case1 =>
      simp only [mapThrough, oldLength_nil]
      split <;> omega
  | case2 m =>
      simp only [mapThrough, oldLength_delete, oldLength_nil]
      split <;> split <;> omega
  | case3 r rs hne ih =>
      cases r with
      | retain m =>
          have hrest := ih (p - m)
          simp only [mapThrough, oldLength_retain]
          split <;> omega
      | delete m =>
          have hrest := ih (p - m)
          simp only [mapThrough, oldLength_delete]
          split <;> omega
      | insert m =>
          have hrest := ih p
          simp only [mapThrough, oldLength_insert]
          split <;> omega

/-- An insertion at the end moves the positions behind its place. -/
theorem mapThrough_addInsert {rs : List Run} (h : Normal rs) (n p : Nat) :
    mapThrough bias (addInsert n rs) p = mapThrough bias rs p +
      if (frontier rs).anchor < p ∨ (frontier rs).anchor = p ∧ bias = .right then n else 0 := by
  have hstart : ∀ q, (0 < q ∨ 0 = q ∧ bias = .right) ↔ ¬(q = 0 ∧ bias = .left) := by
    intro q
    cases bias <;> simp <;> omega
  fun_induction ChangeSet.addInsert n rs generalizing p with
  | case1 =>
      by_cases hp : p = 0 ∧ bias = .left <;> simp [mapThrough, hstart, hp]
      omega
  | case2 m =>
      have hanchor : (frontier [.insert m]).anchor = 0 := rfl
      by_cases hp : p = 0 ∧ bias = .left <;> simp [mapThrough, hanchor, hstart, hp]
      omega
  | case3 m d =>
      have hanchor : (frontier [.insert m, .delete d]).anchor = 0 := rfl
      by_cases hp : p = 0 ∧ bias = .left <;> simp [mapThrough, hanchor, hstart, hp]
      omega
  | case4 d =>
      have hanchor : (frontier [.delete d]).anchor = 0 := rfl
      by_cases hp : p = 0 ∧ bias = .left <;> simp [mapThrough, hanchor, hstart, hp]
      omega
  | case5 r rs hinsert hboth hdelete ih =>
      obtain ⟨hr, hfits, hrs⟩ := normal_cons_iff.mp h
      have hrest := ih hrs
      -- what the anchor is compared with moves along with the runs in front
      have hmoved : ∀ {k a : Nat}, k ≤ p →
          ((k + a < p ∨ k + a = p ∧ bias = .right) ↔ (a < p - k ∨ a = p - k ∧ bias = .right)) := by
        intro k a hk
        have hlt : k + a < p ↔ a < p - k := by omega
        have heq : k + a = p ↔ a = p - k := by omega
        rw [hlt, heq]
      have hbefore : ∀ {k a : Nat}, p < k → ¬(k + a < p ∨ k + a = p ∧ bias = .right) := by
        intro k a hk
        omega
      cases r with
      | retain k =>
          rw [anchor_cons_retain (show 0 < k from hr)]
          simp only [mapThrough]
          split
          · rw [if_neg (hbefore ‹_›), Nat.add_zero]
          · rw [hrest, if_congr (hmoved (Nat.le_of_not_lt ‹_›)) rfl rfl, Nat.add_assoc]
      | delete k =>
          -- in normal form a deletion that does not end the runs has a retained run behind it
          obtain ⟨j, more, rfl⟩ : ∃ j more, rs = .retain j :: more := by
            cases rs with
            | nil => simp at hdelete
            | cons s more => cases s <;> simp_all [Run.Fits, Run.kind]
          have hj : 0 < j := (normal_cons_iff.mp hrs).1
          rw [anchor_cons_delete k hj, mapThrough, mapThrough]
          split
          · rw [if_neg (hbefore ‹_›)]
          · rw [hrest, if_congr (hmoved (Nat.le_of_not_lt ‹_›)) rfl rfl]
      | insert k =>
          rw [anchor_cons_insert]
          simp only [mapThrough, hrest]
          split <;> omega

theorem mapPos_delete (c : ChangeSet) (n p : Nat) :
    (c.delete n).mapPos bias p + min n (p - oldLength c.runs) = c.mapPos bias p := by
  unfold delete
  split
  · simp [*]
  · exact mapThrough_addDelete n c.runs p

theorem mapPos_insert {c : ChangeSet} (h : Normal c.runs) (n p : Nat) :
    (c.insert n).mapPos bias p = c.mapPos bias p +
      if (frontier c.runs).anchor < p ∨ (frontier c.runs).anchor = p ∧ bias = .right then n
      else 0 := by
  unfold insert
  split
  · simp [*]
  · exact mapThrough_addInsert h n p

theorem mapPos_concat_retain (rs : List Run) (n p : Nat) :
    (ofRuns (rs ++ [.retain n])).mapPos bias p = (ofRuns rs).mapPos bias p := by
  rw [ofRuns_concat, add, mapPos_retain]

theorem mapPos_concat_delete (rs : List Run) (n : Nat) (bias : Bias) (p : Nat) :
    (ofRuns (rs ++ [.delete n])).mapPos bias p + min n (p - oldLength rs) =
      (ofRuns rs).mapPos bias p := by
  rw [ofRuns_concat, add, ← (lengths_ofRuns rs).1, mapPos_delete]

theorem mapPos_concat_insert (rs : List Run) (n p : Nat) :
    (ofRuns (rs ++ [.insert n])).mapPos bias p = (ofRuns rs).mapPos bias p +
      if (frontier rs).anchor < p ∨ (frontier rs).anchor = p ∧ bias = .right then n else 0 := by
  rw [ofRuns_concat, add, mapPos_insert (normal_ofRuns rs), frontier_ofRuns]

theorem mapPos_ofRuns (rs : List Run) (bias : Bias) (p : Nat) :
    (ofRuns rs).mapPos bias p = keptBelow rs p + arrivedBelow rs bias p := by
  induction rs using List.reverseRecOn with
  | nil =>
      have hkept : keptBelow [] p = p := Nat.count_true p
      rw [hkept]
      rfl
  | append_singleton rs r ih =>
      cases r with
      | retain n =>
          rw [mapPos_concat_retain, ih, arrivedBelow_congr (arrivals_concat_retain rs n),
            keptBelow_congr (deletesThrough_concat_retain rs n)]
      | delete n =>
          have hmap := mapPos_concat_delete rs n bias p
          have hkept := keptBelow_concat_delete rs n p
          rw [arrivedBelow_congr (arrivals_concat_delete rs n)]
          omega
      | insert n =>
          rw [mapPos_concat_insert, ih, arrivedBelow_concat_insert,
            keptBelow_congr (deletesThrough_concat_insert rs n), Nat.add_assoc]

theorem mapPos_right (rs : List Run) (p : Nat) :
    (ofRuns rs).mapPos .right p = (ofRuns rs).mapPos .left p + arrivedAt rs p := by
  rw [mapPos_ofRuns, mapPos_ofRuns, arrivedBelow_right, Nat.add_assoc]

/-- Between a position and the next there is nothing but the position itself, if it is kept. -/
theorem mapPos_left_succ (rs : List Run) (p : Nat) :
    (ofRuns rs).mapPos .left (p + 1) =
      (ofRuns rs).mapPos .right p + if deletesThrough rs p then 0 else 1 := by
  rw [mapPos_ofRuns, mapPos_ofRuns, keptBelow_succ, arrivedBelow_left_succ, Nat.add_right_comm]

/-! ### Where insertions end up -/

/-- What follows an anchor has been deleted. -/
theorem mapPos_right_anchor (rs : List Run) :
    (ofRuns rs).mapPos .right (frontier rs).anchor = newLength rs := by
  induction rs using List.reverseRecOn with
  | nil => rfl
  | append_singleton rs r ih =>
      rw [frontier_concat, newLength_append]
      cases r with
      | retain n =>
          by_cases hn : n = 0
          · subst hn
            exact (mapPos_concat_retain rs 0 _).trans ih
          · have hold : ((frontier rs).after (.retain n)).anchor = oldLength rs + n := by
              simp [Frontier.after, hn, (frontier_lengths rs).1]
            have hend := mapThrough_right_end (ofRuns rs).runs n
            rw [(lengths_ofRuns rs).1, (lengths_ofRuns rs).2] at hend
            rw [mapPos_concat_retain, hold]
            exact hend
      | delete n =>
          have hle := anchor_le rs
          have hmap := mapPos_concat_delete rs n .right (frontier rs).anchor
          rw [Nat.sub_eq_zero_of_le hle, Nat.min_zero, Nat.add_zero, ih] at hmap
          exact hmap
      | insert n =>
          rw [Frontier.anchor_after_insert, mapPos_concat_insert, ih, if_pos (Or.inr ⟨rfl, rfl⟩),
            newLength_insert]
          rfl

/-- An insertion ends up between the two sides of its place. -/
theorem arrival_between {rs : List Run} {i : Arrival} (h : i ∈ arrivals rs) :
    (ofRuns rs).mapPos .left i.place ≤ i.start ∧
      i.start + i.length ≤ (ofRuns rs).mapPos .right i.place := by
  induction rs using List.reverseRecOn with
  | nil => simp at h
  | append_singleton rs r ih =>
      cases r with
      | retain n =>
          rw [arrivals_concat_retain] at h
          rw [mapPos_concat_retain, mapPos_concat_retain]
          exact ih h
      | delete n =>
          rw [arrivals_concat_delete] at h
          have hle := place_le_oldLength h
          have hsame : ∀ bias, (ofRuns (rs ++ [.delete n])).mapPos bias i.place =
              (ofRuns rs).mapPos bias i.place := by
            intro bias
            have hmap := mapPos_concat_delete rs n bias i.place
            rwa [Nat.sub_eq_zero_of_le hle, Nat.min_zero, Nat.add_zero] at hmap
          rw [hsame, hsame]
          exact ih h
      | insert n =>
          rw [arrivals_concat_insert, List.mem_append, List.mem_singleton] at h
          rw [mapPos_concat_insert, mapPos_concat_insert]
          rcases h with h | rfl
          · -- the place of an earlier one is not behind the anchor, so its left side stays
            have hle := place_le h
            obtain ⟨hstart, hstop⟩ := ih h
            rw [if_neg (by simp; omega)]
            exact ⟨hstart, Nat.le_add_right_of_le hstop⟩
          · -- the new one is what the right side of the anchor has gained
            have hleft := mapPos_left_le_right (ofRuns rs) (Nat.le_refl (frontier rs).anchor)
            have hright := mapPos_right_anchor rs
            simp only [Nat.lt_irrefl, true_and, false_or, reduceCtorEq, if_false, if_true,
              (frontier_lengths rs).2]
            omega

/-- No insertion stands behind a deleted position, and so nothing is between it and the next one. -/
theorem mapPos_right_succ_of_deleted {rs : List Run} {p : Nat} (h : deletesThrough rs p = true) :
    (ofRuns rs).mapPos .right (p + 1) = (ofRuns rs).mapPos .right p := by
  have hnone : arrivedAt rs (p + 1) = 0 := by
    apply arrivedAt_eq_zero
    intro i hi hplace
    have hkept := deletesThrough_before_arrival hi (by omega)
    rw [hplace, Nat.add_sub_cancel, h] at hkept
    exact absurd hkept (by simp)
  rw [mapPos_right, hnone, Nat.add_zero, mapPos_left_succ, h, if_pos rfl, Nat.add_zero]

/-! ### In words -/

/-- The map as a loop over the runs that keeps the old and the new position of each, in words. -/
def walk (bias : Bias) (p : Nat) : List Run → Nat → Nat → Except Fault Nat
  | [], old, new => (subWords p old).bind (addWords new)
  | r :: rs, old, new =>
      if p < old then (subWords p old).bind (addWords new)
      else
        match r with
        | .retain n =>
            (addWords old n).bind fun next =>
              if p < next then (subWords p old).bind (addWords new)
              else (addWords new n).bind (walk bias p rs next)
        | .delete n =>
            (addWords old n).bind fun next => if p < next then .ok new else walk bias p rs next new
        | .insert n =>
            if old = p ∧ bias = .left then walk bias p rs old new
            else (addWords new n).bind (walk bias p rs old)

theorem addWords_ne_underflow (a b : Nat) : addWords a b ≠ .error .underflow := by
  unfold addWords
  split <;> simp

theorem addWords_bind_ne_underflow {a b : Nat} {f : Nat → Except Fault Nat}
    (h : f (a + b) ≠ .error .underflow) : (addWords a b).bind f ≠ .error .underflow := by
  unfold addWords
  split
  · exact h
  · simp [Except.bind]

/-- The loop never gets past the position. -/
theorem walk_ne_underflow (rs : List Run) {p old : Nat} (hold : old ≤ p) (new : Nat) :
    walk bias p rs old new ≠ .error .underflow := by
  induction rs generalizing old new with
  | nil =>
      rw [walk, subWords_bind hold]
      exact addWords_ne_underflow new (p - old)
  | cons r rs ih =>
      have hnot : ¬ p < old := Nat.not_lt.mpr hold
      cases r with
      | retain n =>
          rw [walk, if_neg hnot]
          apply addWords_bind_ne_underflow
          split
          · rw [subWords_bind hold]
            exact addWords_ne_underflow new (p - old)
          · exact addWords_bind_ne_underflow (ih (Nat.le_of_not_lt ‹_›) (new + n))
      | delete n =>
          rw [walk, if_neg hnot]
          apply addWords_bind_ne_underflow
          split
          · simp
          · exact ih (Nat.le_of_not_lt ‹_›) new
      | insert n =>
          rw [walk, if_neg hnot]
          split
          · exact ih hold new
          · exact addWords_bind_ne_underflow (ih hold (new + n))

/-- All sums of the loop are words if the old size and the result are. -/
theorem walk_eq_ok (rs : List Run) {p old new : Nat} (hold : old ≤ p)
    (hbefore : old + oldLength rs ≤ maxPosition)
    (hafter : new + mapThrough bias rs (p - old) ≤ maxPosition) :
    walk bias p rs old new = .ok (new + mapThrough bias rs (p - old)) := by
  induction rs generalizing old new with
  | nil =>
      rw [mapThrough] at hafter ⊢
      rw [walk, subWords_bind hold, addWords, if_pos hafter]
  | cons r rs ih =>
      have hnot : ¬ p < old := Nat.not_lt.mpr hold
      cases r with
      | retain n =>
          rw [oldLength_retain] at hbefore
          simp only [mapThrough] at hafter ⊢
          rw [walk, if_neg hnot, addWords_bind (by omega)]
          by_cases hp : p < old + n
          · rw [if_pos (show p - old < n by omega)] at hafter ⊢
            rw [if_pos hp, subWords_bind hold, addWords, if_pos hafter]
          · rw [if_neg (show ¬ p - old < n by omega)] at hafter ⊢
            rw [if_neg hp, addWords_bind (by omega), ih (by omega) (by omega)
              (by rw [Nat.sub_add_eq]; omega), Nat.sub_add_eq, Nat.add_assoc]
      | delete n =>
          rw [oldLength_delete] at hbefore
          simp only [mapThrough] at hafter ⊢
          rw [walk, if_neg hnot, addWords_bind (by omega)]
          by_cases hp : p < old + n
          · rw [if_pos hp, if_pos (show p - old < n by omega), Nat.add_zero]
          · rw [if_neg (show ¬ p - old < n by omega)] at hafter ⊢
            rw [if_neg hp, ih (by omega) (by omega) (by rwa [Nat.sub_add_eq]), Nat.sub_add_eq]
      | insert n =>
          rw [oldLength_insert] at hbefore
          have hat : old = p ∧ bias = .left ↔ p - old = 0 ∧ bias = .left := by
            rw [show old = p ↔ p - old = 0 by omega]
          simp only [mapThrough] at hafter ⊢
          rw [walk, if_neg hnot, if_congr hat rfl rfl]
          by_cases hleft : p - old = 0 ∧ bias = .left
          · rw [if_pos hleft] at hafter ⊢
            rw [if_pos hleft, ih hold (by omega) hafter]
          · rw [if_neg hleft] at hafter ⊢
            rw [if_neg hleft, addWords_bind (by omega), ih hold (by omega) (by omega),
              Nat.add_assoc]

theorem walk_eq_mapPos (calls : List Run) {p : Nat}
    (hbefore : (ofRuns calls).sizeBefore ≤ maxPosition)
    (hafter : (ofRuns calls).mapPos bias p ≤ maxPosition) :
    walk bias p (ofRuns calls).runs 0 0 = .ok ((ofRuns calls).mapPos bias p) := by
  rw [(sizes_eq_of_runs calls).1] at hbefore
  have hwalk := walk_eq_ok (ofRuns calls).runs (Nat.zero_le p) (by rwa [Nat.zero_add])
    (show 0 + mapThrough bias (ofRuns calls).runs (p - 0) ≤ maxPosition by rwa [Nat.zero_add])
  rwa [Nat.zero_add] at hwalk

/-- Where a position ends up, at most, if it is past the end of the old document by some places. -/
theorem mapPos_le_past_end (calls : List Run) (bias : Bias) (p : Nat) :
    (ofRuns calls).mapPos bias p ≤
      (ofRuns calls).sizeAfter + (p - (ofRuns calls).sizeBefore) := by
  rcases Nat.le_total p (ofRuns calls).sizeBefore with hp | hp
  · exact Nat.le_add_right_of_le (mapPos_le_sizeAfter calls bias hp)
  · obtain ⟨k, rfl⟩ := Nat.exists_eq_add_of_le hp
    have hright : (ofRuns calls).mapPos bias ((ofRuns calls).sizeBefore + k) ≤
        (ofRuns calls).mapPos .right ((ofRuns calls).sizeBefore + k) := by
      cases bias with
      | left => exact mapPos_left_le_right _ (Nat.le_refl _)
      | right => exact Nat.le_refl _
    rw [mapPos_right_end] at hright
    omega

/-- The new place of a range in words: its ends are looked for one after the other. -/
def rangeInWords (c : ChangeSet) (start stop : Nat) : Except Fault (Option (Nat × Nat)) :=
  (walk .right start c.runs 0 0).bind fun a =>
    (walk .left stop c.runs 0 0).map fun b => if a < b then some (a, b) else none

/-- The words give the same for a range that is as far past the end as the new document leaves
room. -/
theorem rangeInWords_eq_mapRange {calls : List Run} {c : ChangeSet}
    (hc : buildInWords calls = .ok c) {start stop : Nat} (hle : start ≤ stop)
    (hstop : c.sizeAfter + (stop - c.sizeBefore) ≤ maxPosition) :
    c.rangeInWords start stop = .ok (c.mapRange start stop) := by
  obtain ⟨hsized, rfl⟩ := buildInWords_eq_ok_iff.mp hc
  have hbefore : (ofRuns calls).sizeBefore ≤ maxPosition := (sizes_ofRuns calls).1 ▸ hsized.1
  have hfirst := mapPos_le_past_end calls .right start
  have hlast := mapPos_le_past_end calls .left stop
  rw [rangeInWords, walk_eq_mapPos calls hbefore (by omega),
    walk_eq_mapPos calls hbefore (by omega)]
  rfl

/-- The map in closed form, for the calls that a change set is built by.  A position is carried to
the number of old positions below it that are kept, and of those that are inserted at a place below
it, or at it if it leans to the right; an insertion has its place where the last retained run ended.
The loop never takes a word from a smaller one, and as long as the old size and the number are words
it finds the number.  So the map keeps the order, the two sides of a position are as far apart as is
inserted there, and the old document is carried into the new one, from its start to its end. -/
theorem mapPos_in_closed_form (calls : List Run) :
    let c := ofRuns calls
    (∀ bias p, c.mapPos bias p =
      Nat.count (fun q => deletesThrough calls q = false) p +
        (((arrivals calls).filter fun i =>
          decide (i.place < p ∨ i.place = p ∧ bias = .right)).map Arrival.length).sum) ∧
    (∀ bias p, walk bias p c.runs 0 0 ≠ .error .underflow ∧
      (c.sizeBefore ≤ maxPosition → c.mapPos bias p ≤ maxPosition →
        walk bias p c.runs 0 0 = .ok (c.mapPos bias p))) ∧
    (∀ bias p q, p ≤ q → c.mapPos bias p ≤ c.mapPos bias q) ∧
    (∀ p, c.mapPos .left p ≤ c.mapPos .right p) ∧
    (∀ p, c.mapPos .right p = c.mapPos .left p +
      (((arrivals calls).filter fun i => decide (i.place = p)).map Arrival.length).sum) ∧
    (∀ bias p, p ≤ c.sizeBefore → c.mapPos bias p ≤ c.sizeAfter) ∧
    c.mapPos .left 0 = 0 ∧ c.mapPos .right c.sizeBefore = c.sizeAfter := by
  intro c
  refine ⟨mapPos_ofRuns calls, ?_, fun bias p q => c.mapPos_mono bias,
    fun p => c.mapPos_left_le_right (Nat.le_refl p), mapPos_right calls,
    fun bias p => mapPos_le_sizeAfter calls bias, ?_, mapPos_right_end calls 0⟩
  · exact fun bias p => ⟨walk_ne_underflow c.runs (Nat.zero_le p) 0, walk_eq_mapPos calls⟩
  · rw [mapPos_ofRuns, arrivedBelow, keptBelow_zero]
    simp

/-- Two insertions around deleted positions stand in front of them, and a third one at the end. -/
theorem insertions_around_deletions :
    let c := ofRuns
      [.retain 2, .delete 1, .insert 3, .retain 0, .delete 2, .insert 1, .retain 4, .insert 2]
    c.sizeBefore ≤ maxPosition ∧ c.mapPos .right 2 = 6 ∧ c.mapPos .right 2 ≤ maxPosition ∧
      walk .right 2 c.runs 0 0 = .ok (c.mapPos .right 2) ∧ c.mapPos .left 4 ≤ c.mapPos .left 7 ∧
      9 ≤ c.sizeBefore ∧ c.mapPos .left 9 ≤ c.sizeAfter := by
  intro c
  obtain ⟨-, hwalk, hmono, -, -, hend, -⟩ := mapPos_in_closed_form
    [.retain 2, .delete 1, .insert 3, .retain 0, .delete 2, .insert 1, .retain 4, .insert 2]
  have hsize : c.sizeBefore = 9 := rfl
  have hmap : c.mapPos .right 2 = 6 := rfl
  have hwords : c.sizeBefore ≤ maxPosition ∧ c.mapPos .right 2 ≤ maxPosition := by
    rw [hsize, hmap]
    exact ⟨by decide, by decide⟩
  exact ⟨hwords.1, hmap, hwords.2, (hwalk .right 2).2 hwords.1 hwords.2,
    hmono .left 4 7 (by decide), Nat.le_of_eq hsize.symm, hend .left 9 (Nat.le_of_eq hsize.symm)⟩

end Highlight.ChangeSet
