import Highlight.Decoration
import Highlight.Proofs.ChangeSet.Readings

/-!
# Change sets in words

Sizes and lengths are words, and a sum that is too large for a word is a fault.  A call adds to the
sizes before it adds to a run, and no run is longer than a size, so only the sizes can be too large.
In words the calls therefore build what they build in numbers, or there is a fault because a size of
that is no word.
-/

namespace Highlight.ChangeSet

inductive Fault where
  | overflow
  | underflow
  deriving DecidableEq, Repr

def addWords (a b : Nat) : Except Fault Nat :=
  if a + b ≤ maxPosition then .ok (a + b) else .error .overflow

def subWords (a b : Nat) : Except Fault Nat :=
  if b ≤ a then .ok (a - b) else .error .underflow

theorem addWords_bind {β : Type} {a b : Nat} (h : a + b ≤ maxPosition) (f : Nat → Except Fault β) :
    (addWords a b).bind f = f (a + b) := by
  rw [addWords, if_pos h]
  rfl

theorem subWords_bind {β : Type} {a b : Nat} (h : b ≤ a) (f : Nat → Except Fault β) :
    (subWords a b).bind f = f (a - b) := by
  rw [subWords, if_pos h]
  rfl

theorem addWords_bind_of_lt {β : Type} {a b : Nat} (h : maxPosition < a + b)
    (f : Nat → Except Fault β) : (addWords a b).bind f = .error .overflow := by
  rw [addWords, if_neg (Nat.not_le.mpr h)]
  rfl

/-! ### Calls in words -/

/-- Adds a retained length at the end, as `addRetain` does, with a sum of words. -/
def addRetainInWords (n : Nat) : List Run → Except Fault (List Run)
  | [] => .ok [.retain n]
  | [.retain m] => (addWords m n).map fun sum => [.retain sum]
  | r :: rs => (addRetainInWords n rs).map (r :: ·)

/-- Adds a deleted length at the end, as `addDelete` does, with a sum of words. -/
def addDeleteInWords (n : Nat) : List Run → Except Fault (List Run)
  | [] => .ok [.delete n]
  | [.delete m] => (addWords m n).map fun sum => [.delete sum]
  | r :: rs => (addDeleteInWords n rs).map (r :: ·)

/-- Adds an inserted length at the end, as `addInsert` does, with a sum of words. -/
def addInsertInWords (n : Nat) : List Run → Except Fault (List Run)
  | [] => .ok [.insert n]
  | [.insert m] => (addWords m n).map fun sum => [.insert sum]
  | [.insert m, .delete d] => (addWords m n).map fun sum => [.insert sum, .delete d]
  | [.delete d] => .ok [.insert n, .delete d]
  | r :: rs => (addInsertInWords n rs).map (r :: ·)

def addRunInWords : Run → List Run → Except Fault (List Run)
  | .retain n => addRetainInWords n
  | .delete n => addDeleteInWords n
  | .insert n => addInsertInWords n

/-- A call in words.  The sizes come first, then the run that the call makes longer. -/
def addInWords (c : ChangeSet) (r : Run) : Except Fault ChangeSet :=
  if r.length = 0 then .ok c
  else
    (addWords c.sizeBefore (oldLength [r])).bind fun before =>
      (addWords c.sizeAfter (newLength [r])).bind fun after =>
        (addRunInWords r c.runs).map fun runs => ⟨runs, before, after⟩

/-- The change set that calls build in words, or the fault of the first call that has one. -/
def buildInWords (calls : List Run) : Except Fault ChangeSet := calls.foldlM addInWords empty

/-- What calls add up to are words, before and after. -/
def SizedInWords (calls : List Run) : Prop :=
  oldLength calls ≤ maxPosition ∧ newLength calls ≤ maxPosition

instance : DecidablePred SizedInWords := fun calls =>
  inferInstanceAs (Decidable (oldLength calls ≤ maxPosition ∧ newLength calls ≤ maxPosition))

/-! ### No run is too long -/

theorem map_addWords {β : Type} {a b : Nat} (h : a + b ≤ maxPosition) (f : Nat → β) :
    (addWords a b).map f = .ok (f (a + b)) := by
  rw [addWords, if_pos h]
  rfl

theorem addRetainInWords_eq_ok {n : Nat} {rs : List Run}
    (h : total .retain rs + n ≤ maxPosition) : addRetainInWords n rs = .ok (addRetain n rs) := by
  fun_induction addRetain n rs with
  | case1 => rfl
  | case2 m => exact map_addWords (by simpa [Run.kind, Run.length] using h) _
  | case3 r rs hne ih =>
      rw [total_cons] at h
      rw [addRetainInWords, ih (by omega)]
      · rfl
      · exact hne

theorem addDeleteInWords_eq_ok {n : Nat} {rs : List Run}
    (h : total .delete rs + n ≤ maxPosition) : addDeleteInWords n rs = .ok (addDelete n rs) := by
  fun_induction addDelete n rs with
  | case1 => rfl
  | case2 m => exact map_addWords (by simpa [Run.kind, Run.length] using h) _
  | case3 r rs hne ih =>
      rw [total_cons] at h
      rw [addDeleteInWords, ih (by omega)]
      · rfl
      · exact hne

theorem addInsertInWords_eq_ok {n : Nat} {rs : List Run}
    (h : total .insert rs + n ≤ maxPosition) : addInsertInWords n rs = .ok (addInsert n rs) := by
  fun_induction addInsert n rs with
  | case1 => rfl
  | case2 m => exact map_addWords (by simpa [Run.kind, Run.length] using h) _
  | case3 m d => exact map_addWords (by simpa [Run.kind, Run.length] using h) _
  | case4 d => rfl
  | case5 r rs hinsert hboth hdelete ih =>
      rw [total_cons] at h
      rw [addInsertInWords, ih (by omega)]
      · rfl
      · exact hinsert
      · exact hboth
      · exact hdelete

/-- The run that a call makes longer is part of a size, and so it is a word if the size is one. -/
theorem addRunInWords_eq_ok (c : ChangeSet) {r : Run} (hr : r.length ≠ 0)
    (hbefore : oldLength c.runs + oldLength [r] ≤ maxPosition)
    (hafter : newLength c.runs + newLength [r] ≤ maxPosition) :
    addRunInWords r c.runs = .ok (c.add r).runs := by
  cases r with
  | retain n =>
      have hle : total .retain c.runs ≤ oldLength c.runs := Nat.le_add_right _ _
      rw [oldLength_retain, oldLength_nil] at hbefore
      rw [addRunInWords, addRetainInWords_eq_ok (by omega), add, retain,
        if_neg (show n ≠ 0 from hr)]
  | delete n =>
      have hle : total .delete c.runs ≤ oldLength c.runs := Nat.le_add_left _ _
      rw [oldLength_delete, oldLength_nil] at hbefore
      rw [addRunInWords, addDeleteInWords_eq_ok (by omega), add, delete,
        if_neg (show n ≠ 0 from hr)]
  | insert n =>
      have hle : total .insert c.runs ≤ newLength c.runs := Nat.le_add_left _ _
      rw [newLength_insert, newLength_nil] at hafter
      rw [addRunInWords, addInsertInWords_eq_ok (by omega), add, insert,
        if_neg (show n ≠ 0 from hr)]

/-! ### What is built in words -/

theorem add_of_empty (c : ChangeSet) {r : Run} (hr : r.length = 0) : c.add r = c := by
  cases r <;> exact if_pos hr

theorem addInWords_ofRuns {calls : List Run} (h : SizedInWords calls) (r : Run) :
    (ofRuns calls).addInWords r =
      if SizedInWords (calls ++ [r]) then .ok (ofRuns (calls ++ [r])) else .error .overflow := by
  obtain ⟨hbefore, hafter⟩ := sizes_ofRuns calls
  obtain ⟨hold, hnew⟩ := lengths_ofRuns calls
  have hsized : SizedInWords (calls ++ [r]) ↔
      oldLength calls + oldLength [r] ≤ maxPosition ∧
        newLength calls + newLength [r] ≤ maxPosition := by
    rw [SizedInWords, oldLength_append, newLength_append]
  obtain ⟨hbefore', hafter'⟩ := sizes_add (ofRuns calls) r
  rw [ofRuns_concat, if_congr hsized rfl rfl, addInWords, hbefore, hafter]
  by_cases hr : r.length = 0
  · have hnone : oldLength [r] = 0 ∧ newLength [r] = 0 := by
      cases r <;> simp_all [Run.length]
    rw [if_pos hr, hnone.1, hnone.2, add_of_empty _ hr]
    exact (if_pos h).symm
  · rw [if_neg hr]
    by_cases hold' : oldLength calls + oldLength [r] ≤ maxPosition
    · rw [addWords_bind hold']
      by_cases hnew' : newLength calls + newLength [r] ≤ maxPosition
      · rw [addWords_bind hnew', if_pos ⟨hold', hnew'⟩,
          addRunInWords_eq_ok _ hr (hold ▸ hold') (hnew ▸ hnew'), ← hbefore, ← hafter, ← hbefore',
          ← hafter']
        rfl
      · rw [addWords_bind_of_lt (by omega), if_neg fun h => hnew' h.2]
    · rw [addWords_bind_of_lt (by omega), if_neg fun h => hold' h.1]

/-- In words the calls build the same, or there is a fault because what they add up to is no
word. -/
theorem buildInWords_eq (calls : List Run) :
    buildInWords calls =
      if SizedInWords calls then .ok (ofRuns calls) else .error .overflow := by
  induction calls using List.reverseRecOn with
  | nil => rfl
  | append_singleton calls r ih =>
      have hstep : buildInWords (calls ++ [r]) =
          (buildInWords calls).bind fun c => c.addInWords r := by
        simp only [buildInWords, List.foldlM_append, List.foldlM_cons, List.foldlM_nil, bind_pure]
        rfl
      rw [hstep, ih]
      by_cases h : SizedInWords calls
      · rw [if_pos h]
        exact addInWords_ofRuns h r
      · -- what is too large does not get smaller
        have hmore : ¬ SizedInWords (calls ++ [r]) := by
          rw [SizedInWords, oldLength_append, newLength_append]
          intro hsized
          exact h ⟨by omega, by omega⟩
        rw [if_neg h, if_neg hmore]
        rfl

example : buildInWords [.retain maxPosition, .retain 1] = .error .overflow :=
  (buildInWords_eq _).trans (if_neg (by decide))

theorem buildInWords_eq_ok_iff {calls : List Run} {c : ChangeSet} :
    buildInWords calls = .ok c ↔ SizedInWords calls ∧ c = ofRuns calls := by
  rw [buildInWords_eq]
  by_cases h : SizedInWords calls
  · simp [h, eq_comm]
  · simp [h]

end Highlight.ChangeSet
