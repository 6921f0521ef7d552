import Highlight.Proofs.Document.Scripts
import Mathlib.Data.Nat.Count

/-!
# Where insertions stand

Among the old positions an insertion stands where the last retained run before it ended, in front of
whatever has been deleted since; among the new ones it comes after all that was retained and
inserted before.  Both are said of the calls that build a change set, one after the other.
-/

namespace Highlight.ChangeSet

/-- How far calls have come: the old and the new position that they have reached, and the old
position where the last retained run ended. -/
structure Frontier where
  old : Nat := 0
  new : Nat := 0
  anchor : Nat := 0
  deriving DecidableEq, Repr

/-- A part of the new positions that was inserted, with its place among the old ones. -/
structure Arrival where
  place : Nat
  start : Nat
  length : Nat
  deriving DecidableEq, Repr

namespace Frontier

def after (s : Frontier) : Run → Frontier
  | .retain n => if n = 0 then s else ⟨s.old + n, s.new + n, s.old + n⟩
  | .delete n => { s with old := s.old + n }
  | .insert n => { s with new := s.new + n }

@[simp] theorem anchor_after_delete (s : Frontier) (n : Nat) :
    (s.after (.delete n)).anchor = s.anchor := rfl

@[simp] theorem anchor_after_insert (s : Frontier) (n : Nat) :
    (s.after (.insert n)).anchor = s.anchor := rfl

def shift (m n : Nat) (s : Frontier) : Frontier := ⟨s.old + m, s.new + n, s.anchor + m⟩

theorem after_shift (s : Frontier) (m n : Nat) (r : Run) :
    (s.shift m n).after r = (s.after r).shift m n := by
  cases r with
  | retain k =>
      simp only [after]
      split
      · rfl
      · simp [shift, Nat.add_right_comm]
  | delete k => simp [after, shift, Nat.add_right_comm]
  | insert k => simp [after, shift, Nat.add_right_comm]

theorem foldl_after_shift (rs : List Run) (s : Frontier) (m n : Nat) :
    rs.foldl after (s.shift m n) = (rs.foldl after s).shift m n := by
  induction rs generalizing s with
  | nil => rfl
  | cons r rs ih => rw [List.foldl_cons, List.foldl_cons, after_shift, ih]

end Frontier

def frontier (rs : List Run) : Frontier := rs.foldl .after {}

/-- The arrivals of calls that are made after others. -/
def arrivalsFrom (s : Frontier) : List Run → List Arrival
  | [] => []
  | .insert n :: rs => ⟨s.anchor, s.new, n⟩ :: arrivalsFrom (s.after (.insert n)) rs
  | r :: rs => arrivalsFrom (s.after r) rs

def arrivals (rs : List Run) : List Arrival := arrivalsFrom {} rs

/-- How many of the old positions below a position are not deleted. -/
def keptBelow (rs : List Run) (p : Nat) : Nat := Nat.count (fun q => deletesThrough rs q = false) p

/-- The length of the insertions whose place is before a position, or at it if it leans to the
right. -/
def arrivedBelow (rs : List Run) (bias : Bias) (p : Nat) : Nat :=
  (((arrivals rs).filter fun i => decide (i.place < p ∨ i.place = p ∧ bias = .right)).map
    Arrival.length).sum

def arrivedAt (rs : List Run) (p : Nat) : Nat :=
  (((arrivals rs).filter fun i => decide (i.place = p)).map Arrival.length).sum

/-! ### Frontiers -/

@[simp] theorem frontier_nil : frontier [] = {} := rfl

@[simp] theorem frontier_concat (rs : List Run) (r : Run) :
    frontier (rs ++ [r]) = (frontier rs).after r := by
  simp [frontier]

theorem lawful_frontier : Lawful fun rs (s : Frontier) => rs.foldl Frontier.after s where
  cons r rs rs' h := by
    funext s
    exact congrFun h (s.after r)
  of_empty r rs h := by
    funext s
    cases r <;> simp_all [Frontier.after, Run.length]
  retain_add m n rs := by
    funext s
    by_cases hm : m = 0 <;> by_cases hn : n = 0 <;>
      simp [Frontier.after, hm, hn, Nat.add_assoc]
  delete_add m n rs := by
    funext s
    simp [Frontier.after, Nat.add_assoc]
  insert_add m n rs := by
    funext s
    simp [Frontier.after, Nat.add_assoc]
  delete_insert m n rs := rfl

theorem frontier_ofRuns (rs : List Run) : frontier (ofRuns rs).runs = frontier rs :=
  congrFun (lawful_frontier.ofRuns rs) {}

theorem frontier_lengths (rs : List Run) :
    (frontier rs).old = oldLength rs ∧ (frontier rs).new = newLength rs := by
  induction rs using List.reverseRecOn with
  | nil => exact ⟨rfl, rfl⟩
  | append_singleton rs r ih =>
      obtain ⟨hold, hnew⟩ := ih
      rw [frontier_concat, oldLength_append, newLength_append]
      cases r with
      | retain n =>
          by_cases hn : n = 0 <;>
            simp [Frontier.after, hold, hnew, hn]
      | delete n => simp [Frontier.after, hold, hnew]
      | insert n => simp [Frontier.after, hold, hnew]

theorem anchor_le (rs : List Run) : (frontier rs).anchor ≤ oldLength rs := by
  rw [← (frontier_lengths rs).1]
  induction rs using List.reverseRecOn with
  | nil => exact Nat.le_refl _
  | append_singleton rs r ih =>
      rw [frontier_concat]
      cases r with
      | retain n =>
          simp only [Frontier.after]
          split
          · exact ih
          · exact Nat.le_refl _
      | delete n => exact Nat.le_add_right_of_le ih
      | insert n => exact ih

theorem anchor_cons_retain {n : Nat} (hn : 0 < n) (rs : List Run) :
    (frontier (.retain n :: rs)).anchor = n + (frontier rs).anchor := by
  have hshift : Frontier.after {} (.retain n) = Frontier.shift n n {} := by
    simp [Frontier.after, Frontier.shift, Nat.ne_of_gt hn]
  rw [frontier, List.foldl_cons, hshift, Frontier.foldl_after_shift]
  exact Nat.add_comm _ _

theorem anchor_cons_insert (n : Nat) (rs : List Run) :
    (frontier (.insert n :: rs)).anchor = (frontier rs).anchor := by
  have hshift : Frontier.after {} (.insert n) = Frontier.shift 0 n {} := by
    simp [Frontier.after, Frontier.shift]
  rw [frontier, List.foldl_cons, hshift, Frontier.foldl_after_shift]
  rfl

/-- A deletion moves the anchor along if something is retained after it. -/
theorem anchor_cons_delete (m : Nat) {n : Nat} (hn : 0 < n) (rs : List Run) :
    (frontier (.delete m :: .retain n :: rs)).anchor = m + (frontier (.retain n :: rs)).anchor := by
  have hne : n ≠ 0 := Nat.ne_of_gt hn
  have hshift : (Frontier.after {} (.delete m)).after (.retain n) =
      (Frontier.after {} (.retain n)).shift m 0 := by
    simp [Frontier.after, Frontier.shift, hne, Nat.add_comm]
  rw [frontier, List.foldl_cons, List.foldl_cons, hshift, Frontier.foldl_after_shift]
  exact Nat.add_comm _ _

/-! ### Arrivals -/

@[simp] theorem arrivals_nil : arrivals [] = [] := rfl

theorem arrivalsFrom_append (s : Frontier) (xs ys : List Run) :
    arrivalsFrom s (xs ++ ys) = arrivalsFrom s xs ++ arrivalsFrom (xs.foldl .after s) ys := by
  induction xs generalizing s with
  | nil => rfl
  | cons r xs ih => cases r <;> simp [arrivalsFrom, ih]

theorem arrivals_concat (rs : List Run) (r : Run) :
    arrivals (rs ++ [r]) = arrivals rs ++ arrivalsFrom (frontier rs) [r] :=
  arrivalsFrom_append {} rs [r]

theorem arrivals_concat_retain (rs : List Run) (n : Nat) :
    arrivals (rs ++ [.retain n]) = arrivals rs := by
  simp [arrivals_concat, arrivalsFrom]

theorem arrivals_concat_delete (rs : List Run) (n : Nat) :
    arrivals (rs ++ [.delete n]) = arrivals rs := by
  simp [arrivals_concat, arrivalsFrom]

theorem arrivals_concat_insert (rs : List Run) (n : Nat) :
    arrivals (rs ++ [.insert n]) =
      arrivals rs ++ [⟨(frontier rs).anchor, (frontier rs).new, n⟩] :=
  arrivals_concat rs (.insert n)

theorem place_le {rs : List Run} {i : Arrival} (h : i ∈ arrivals rs) :
    i.place ≤ (frontier rs).anchor := by
  induction rs using List.reverseRecOn with
  | nil => simp at h
  | append_singleton rs r ih =>
      rw [frontier_concat]
      cases r with
      | retain n =>
          rw [arrivals_concat_retain] at h
          have hold := anchor_le rs
          rw [← (frontier_lengths rs).1] at hold
          simp only [Frontier.after]
          split
          · exact ih h
          · exact Nat.le_trans (ih h) (Nat.le_add_right_of_le hold)
      | delete n =>
          rw [arrivals_concat_delete] at h
          exact ih h
      | insert n =>
          rw [arrivals_concat_insert, List.mem_append, List.mem_singleton] at h
          rcases h with h | rfl
          · exact ih h
          · exact Nat.le_refl _

theorem place_le_oldLength {rs : List Run} {i : Arrival} (h : i ∈ arrivals rs) :
    i.place ≤ oldLength rs :=
  Nat.le_trans (place_le h) (anchor_le rs)

/-! ### Deleted positions -/

theorem deletesThrough_append (xs ys : List Run) (p : Nat) :
    deletesThrough (xs ++ ys) p =
      (deletesThrough xs p ||
        (decide (oldLength xs ≤ p) && deletesThrough ys (p - oldLength xs))) := by
  induction xs generalizing p with
  | nil => simp [deletesThrough]
  | cons r xs ih =>
      have hle : ∀ n, n + oldLength xs ≤ p ↔ n ≤ p ∧ oldLength xs ≤ p - n := by
        intro n
        omega
      cases r with
      | retain n =>
          simp [deletesThrough, ih, hle, Nat.sub_sub, Bool.and_or_distrib_left, Bool.and_assoc]
      | delete n =>
          by_cases hp : p < n
          · simp [deletesThrough, hp]
          · simp [deletesThrough, ih, hle, hp, Nat.le_of_not_lt hp, Nat.sub_sub]
      | insert n => simp [deletesThrough, ih]

theorem deletesThrough_of_le {rs : List Run} {p : Nat} (h : oldLength rs ≤ p) :
    deletesThrough rs p = false := by
  induction rs generalizing p with
  | nil => rfl
  | cons r rs ih =>
      cases r with
      | retain n =>
          rw [oldLength_retain] at h
          simp [deletesThrough, ih (p := p - n) (by omega)]
      | delete n =>
          rw [oldLength_delete] at h
          simp [deletesThrough, ih (p := p - n) (by omega)]
          omega
      | insert n => exact ih (by rwa [oldLength_insert] at h)

theorem deletesThrough_concat_retain (rs : List Run) (n p : Nat) :
    deletesThrough (rs ++ [.retain n]) p = deletesThrough rs p := by
  simp [deletesThrough_append, deletesThrough]

theorem deletesThrough_concat_insert (rs : List Run) (n p : Nat) :
    deletesThrough (rs ++ [.insert n]) p = deletesThrough rs p := by
  simp [deletesThrough_append, deletesThrough]

theorem deletesThrough_concat_delete (rs : List Run) (n p : Nat) :
    deletesThrough (rs ++ [.delete n]) p =
      (deletesThrough rs p || (decide (oldLength rs ≤ p) && decide (p < oldLength rs + n))) := by
  have hlt : oldLength rs ≤ p → (p - oldLength rs < n ↔ p < oldLength rs + n) := by omega
  by_cases hp : oldLength rs ≤ p
  · simp [deletesThrough_append, deletesThrough, hp, hlt hp]
  · simp [deletesThrough_append, hp]

/-- The position in front of an anchor is retained. -/
theorem deletesThrough_before_anchor {rs : List Run} (h : 0 < (frontier rs).anchor) :
    deletesThrough rs ((frontier rs).anchor - 1) = false := by
  induction rs using List.reverseRecOn with
  | nil => simp at h
  | append_singleton rs r ih =>
      rw [frontier_concat] at h ⊢
      cases r with
      | retain n =>
          rw [deletesThrough_concat_retain]
          by_cases hn : n = 0
          · simp only [Frontier.after, hn, if_true] at h ⊢
            exact ih h
          · -- the anchor is the end of what was retained last
            simp only [Frontier.after, hn, if_false] at h ⊢
            apply deletesThrough_of_le
            rw [(frontier_lengths rs).1]
            omega
      | delete n =>
          have hle := anchor_le rs
          rw [Frontier.anchor_after_delete] at h ⊢
          rw [deletesThrough_concat_delete, ih h]
          simp
          omega
      | insert n =>
          rw [deletesThrough_concat_insert]
          exact ih h

/-- So is the position in front of an insertion. -/
theorem deletesThrough_before_arrival {rs : List Run} {i : Arrival} (h : i ∈ arrivals rs)
    (hplace : 0 < i.place) : deletesThrough rs (i.place - 1) = false := by
  induction rs using List.reverseRecOn with
  | nil => simp at h
  | append_singleton rs r ih =>
      cases r with
      | retain n =>
          rw [arrivals_concat_retain] at h
          rw [deletesThrough_concat_retain]
          exact ih h
      | delete n =>
          rw [arrivals_concat_delete] at h
          have hle := place_le_oldLength h
          rw [deletesThrough_concat_delete, ih h]
          simp
          omega
      | insert n =>
          rw [arrivals_concat_insert, List.mem_append, List.mem_singleton] at h
          rw [deletesThrough_concat_insert]
          rcases h with h | rfl
          · exact ih h
          · exact deletesThrough_before_anchor hplace

/-! ### Counts -/

@[simp] theorem keptBelow_zero (rs : List Run) : keptBelow rs 0 = 0 := Nat.count_zero _

theorem keptBelow_succ (rs : List Run) (p : Nat) :
    keptBelow rs (p + 1) = keptBelow rs p + if deletesThrough rs p then 0 else 1 := by
  rw [keptBelow, Nat.count_succ, keptBelow]
  cases deletesThrough rs p <;> simp

theorem keptBelow_congr {rs rs' : List Run} (h : ∀ q, deletesThrough rs q = deletesThrough rs' q)
    (p : Nat) : keptBelow rs p = keptBelow rs' p := by
  simp only [keptBelow, h]

theorem keptBelow_concat_delete (rs : List Run) (n p : Nat) :
    keptBelow (rs ++ [.delete n]) p + min n (p - oldLength rs) = keptBelow rs p := by
  induction p with
  | zero => simp
  | succ p ih =>
      rw [keptBelow_succ, keptBelow_succ, deletesThrough_concat_delete]
      by_cases hold : oldLength rs ≤ p
      · rw [deletesThrough_of_le hold]
        by_cases hp : p < oldLength rs + n <;> simp [hold, hp] <;> omega
      · simp [hold]
        omega

theorem arrivedBelow_congr {rs rs' : List Run} (h : arrivals rs = arrivals rs') (bias : Bias)
    (p : Nat) : arrivedBelow rs bias p = arrivedBelow rs' bias p := by
  rw [arrivedBelow, h, ← arrivedBelow]

theorem arrivedBelow_concat_insert (rs : List Run) (n : Nat) (bias : Bias) (p : Nat) :
    arrivedBelow (rs ++ [.insert n]) bias p = arrivedBelow rs bias p +
      if (frontier rs).anchor < p ∨ (frontier rs).anchor = p ∧ bias = .right then n else 0 := by
  simp only [arrivedBelow, arrivals_concat_insert, List.filter_append, List.map_append,
    List.sum_append, List.filter_cons, List.filter_nil]
  split <;> simp_all

theorem arrivedBelow_right (rs : List Run) (p : Nat) :
    arrivedBelow rs .right p = arrivedBelow rs .left p + arrivedAt rs p := by
  simp only [arrivedBelow, arrivedAt]
  induction arrivals rs with
  | nil => rfl
  | cons i is ih =>
      rcases Nat.lt_trichotomy i.place p with hlt | heq | hgt
      · simp_all [Nat.ne_of_lt hlt]
        omega
      · simp_all
        omega
      · simp_all [Nat.ne_of_gt hgt, Nat.not_lt_of_gt hgt]

/-- What stands at a position or before it stands before the next. -/
theorem arrivedBelow_left_succ (rs : List Run) (p : Nat) :
    arrivedBelow rs .left (p + 1) = arrivedBelow rs .right p := by
  have hlt : ∀ q, q < p + 1 ↔ q < p ∨ q = p := fun q => Nat.lt_succ_iff_lt_or_eq
  simp [arrivedBelow, hlt]

theorem arrivedAt_eq_zero {rs : List Run} {p : Nat} (h : ∀ i ∈ arrivals rs, i.place ≠ p) :
    arrivedAt rs p = 0 := by
  have hnone : (arrivals rs).filter (fun i => decide (i.place = p)) = [] := by simpa using h
  rw [arrivedAt, hnone]
  rfl

end Highlight.ChangeSet
