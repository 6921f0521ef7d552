import Highlight.ChangeSet
import Mathlib.Algebra.GroupWithZero.Nat
import Mathlib.Data.List.Induction

/-!
# What calls add up to

A change set is built call by call, and the calls merge and reorder runs on the way.  A reading of
runs that does not tell the difference, run by run, reads the same from a change set as from the
calls that built it.  Lengths that are kept, deleted and inserted are such readings.
-/

namespace Highlight

namespace Run

inductive Kind where
  | retain
  | delete
  | insert
  deriving DecidableEq, Repr

def kind : Run → Kind
  | .retain _ => .retain
  | .delete _ => .delete
  | .insert _ => .insert

def length : Run → Nat
  | .retain n => n
  | .delete n => n
  | .insert n => n

end Run

namespace ChangeSet

@[simp] theorem ofRuns_nil : ofRuns [] = empty := rfl

@[simp] theorem ofRuns_concat (rs : List Run) (r : Run) :
    ofRuns (rs ++ [r]) = (ofRuns rs).add r := by
  simp [ofRuns]

/-! ### Lawful readings -/

/-- A reading of runs that is told nothing new when runs of one kind merge, when a run has no
length, or when an insertion passes a deletion. -/
structure Lawful {β : Type*} (f : List Run → β) : Prop where
  cons (r : Run) {rs rs' : List Run} (h : f rs = f rs') : f (r :: rs) = f (r :: rs')
  of_empty (r : Run) (rs : List Run) (h : r.length = 0) : f (r :: rs) = f rs
  retain_add (m n : Nat) (rs : List Run) :
    f (.retain (m + n) :: rs) = f (.retain m :: .retain n :: rs)
  delete_add (m n : Nat) (rs : List Run) :
    f (.delete (m + n) :: rs) = f (.delete m :: .delete n :: rs)
  insert_add (m n : Nat) (rs : List Run) :
    f (.insert (m + n) :: rs) = f (.insert m :: .insert n :: rs)
  delete_insert (m n : Nat) (rs : List Run) :
    f (.delete m :: .insert n :: rs) = f (.insert n :: .delete m :: rs)

namespace Lawful

variable {β : Type*} {f : List Run → β}

theorem append (hf : Lawful f) (front : List Run) {rs rs' : List Run} (h : f rs = f rs') :
    f (front ++ rs) = f (front ++ rs') := by
  induction front with
  | nil => exact h
  | cons r front ih => exact hf.cons r ih

theorem addRetain (hf : Lawful f) (n : Nat) (rs later : List Run) :
    f (addRetain n rs ++ later) = f (rs ++ .retain n :: later) := by
  fun_induction ChangeSet.addRetain n rs with
  | case1 => rfl
  | case2 m => exact hf.retain_add m n later
  | case3 r rs hne ih => exact hf.cons r ih

theorem addDelete (hf : Lawful f) (n : Nat) (rs later : List Run) :
    f (addDelete n rs ++ later) = f (rs ++ .delete n :: later) := by
  fun_induction ChangeSet.addDelete n rs with
  | case1 => rfl
  | case2 m => exact hf.delete_add m n later
  | case3 r rs hne ih => exact hf.cons r ih

theorem addInsert (hf : Lawful f) (n : Nat) (rs later : List Run) :
    f (addInsert n rs ++ later) = f (rs ++ .insert n :: later) := by
  fun_induction ChangeSet.addInsert n rs with
  | case1 => rfl
  | case2 m => exact hf.insert_add m n later
  | case3 m d =>
      -- the insertion passes the deletion and merges with the insertion in front of it
      refine (hf.insert_add m n (.delete d :: later)).trans ?_
      exact hf.cons (.insert m) (hf.delete_insert d n later).symm
  | case4 d => exact (hf.delete_insert d n later).symm
  | case5 r rs _ _ _ ih => exact hf.cons r ih

theorem add (hf : Lawful f) (c : ChangeSet) (r : Run) (later : List Run) :
    f ((c.add r).runs ++ later) = f (c.runs ++ r :: later) := by
  have hempty : r.length = 0 → f (c.runs ++ later) = f (c.runs ++ r :: later) :=
    fun hr => hf.append c.runs (hf.of_empty r later hr).symm
  cases r with
  | retain n =>
      simp only [ChangeSet.add, retain]
      split
      · exact hempty ‹_›
      · exact hf.addRetain n c.runs later
  | delete n =>
      simp only [ChangeSet.add, delete]
      split
      · exact hempty ‹_›
      · exact hf.addDelete n c.runs later
  | insert n =>
      simp only [ChangeSet.add, insert]
      split
      · exact hempty ‹_›
      · exact hf.addInsert n c.runs later

/-- What is read from a change set is read from the calls that built it. -/
theorem ofRuns (hf : Lawful f) (rs : List Run) : f (ofRuns rs).runs = f rs := by
  have hfold : ∀ c : ChangeSet, f (rs.foldl ChangeSet.add c).runs = f (c.runs ++ rs) := by
    induction rs with
    | nil => simp
    | cons r rs ih =>
        intro c
        rw [List.foldl_cons, ih, hf.add]
  exact hfold empty

end Lawful

/-! ### Lengths -/

/-- The length of all runs of one kind. -/
def total (k : Run.Kind) (rs : List Run) : Nat :=
  ((rs.filter fun r => decide (r.kind = k)).map Run.length).sum

@[simp] theorem total_nil (k : Run.Kind) : total k [] = 0 := rfl

@[simp] theorem total_cons (k : Run.Kind) (r : Run) (rs : List Run) :
    total k (r :: rs) = (if r.kind = k then r.length else 0) + total k rs := by
  by_cases hr : r.kind = k <;> simp [total, hr]

@[simp] theorem total_append (k : Run.Kind) (xs ys : List Run) :
    total k (xs ++ ys) = total k xs + total k ys := by
  simp [total]

theorem lawful_total (k : Run.Kind) : Lawful (total k) where
  cons r rs rs' h := by simp [h]
  of_empty r rs h := by simp [h]
  retain_add m n rs := by
    cases k <;> simp [Run.kind, Run.length, Nat.add_assoc]
  delete_add m n rs := by
    cases k <;> simp [Run.kind, Run.length, Nat.add_assoc]
  insert_add m n rs := by
    cases k <;> simp [Run.kind, Run.length, Nat.add_assoc]
  delete_insert m n rs := by
    cases k <;> simp [Run.kind]

/-- How many old positions runs are about. -/
def oldLength (rs : List Run) : Nat := total .retain rs + total .delete rs

/-- How many positions runs make of them. -/
def newLength (rs : List Run) : Nat := total .retain rs + total .insert rs

@[simp] theorem oldLength_nil : oldLength [] = 0 := rfl

@[simp] theorem oldLength_retain (n : Nat) (rs : List Run) :
    oldLength (.retain n :: rs) = n + oldLength rs := by
  simp [oldLength, Run.kind, Run.length, Nat.add_assoc]

@[simp] theorem oldLength_delete (n : Nat) (rs : List Run) :
    oldLength (.delete n :: rs) = n + oldLength rs := by
  simp [oldLength, Run.kind, Run.length, Nat.add_left_comm]

@[simp] theorem oldLength_insert (n : Nat) (rs : List Run) :
    oldLength (.insert n :: rs) = oldLength rs := by
  simp [oldLength, Run.kind]

@[simp] theorem newLength_nil : newLength [] = 0 := rfl

@[simp] theorem newLength_retain (n : Nat) (rs : List Run) :
    newLength (.retain n :: rs) = n + newLength rs := by
  simp [newLength, Run.kind, Run.length, Nat.add_assoc]

@[simp] theorem newLength_delete (n : Nat) (rs : List Run) :
    newLength (.delete n :: rs) = newLength rs := by
  simp [newLength, Run.kind]

@[simp] theorem newLength_insert (n : Nat) (rs : List Run) :
    newLength (.insert n :: rs) = n + newLength rs := by
  simp [newLength, Run.kind, Run.length, Nat.add_left_comm]

theorem oldLength_append (xs ys : List Run) :
    oldLength (xs ++ ys) = oldLength xs + oldLength ys := by
  simp only [oldLength, total_append]
  omega

theorem newLength_append (xs ys : List Run) :
    newLength (xs ++ ys) = newLength xs + newLength ys := by
  simp only [newLength, total_append]
  omega

theorem sizes_add (c : ChangeSet) (r : Run) :
    (c.add r).sizeBefore = c.sizeBefore + oldLength [r] ∧
      (c.add r).sizeAfter = c.sizeAfter + newLength [r] := by
  cases r with
  | retain n =>
      simp only [add, retain]
      split <;> simp_all
  | delete n =>
      simp only [add, delete]
      split <;> simp_all
  | insert n =>
      simp only [add, insert]
      split <;> simp_all

/-- The sizes that a change set has are those of its calls. -/
theorem sizes_ofRuns (rs : List Run) :
    (ofRuns rs).sizeBefore = oldLength rs ∧ (ofRuns rs).sizeAfter = newLength rs := by
  induction rs using List.reverseRecOn with
  | nil => exact ⟨rfl, rfl⟩
  | append_singleton rs r ih =>
      obtain ⟨hbefore, hafter⟩ := sizes_add (ofRuns rs) r
      rw [ofRuns_concat, hbefore, hafter, ih.1, ih.2, oldLength_append, newLength_append]
      exact ⟨rfl, rfl⟩

theorem lengths_ofRuns (rs : List Run) :
    oldLength (ofRuns rs).runs = oldLength rs ∧ newLength (ofRuns rs).runs = newLength rs := by
  have htotal : ∀ k, total k (ofRuns rs).runs = total k rs := fun k => (lawful_total k).ofRuns rs
  simp only [oldLength, newLength, htotal, and_self]

/-- So they are those of its runs. -/
theorem sizes_eq_of_runs (rs : List Run) :
    (ofRuns rs).sizeBefore = oldLength (ofRuns rs).runs ∧
      (ofRuns rs).sizeAfter = newLength (ofRuns rs).runs := by
  rw [(lengths_ofRuns rs).1, (lengths_ofRuns rs).2]
  exact sizes_ofRuns rs

end ChangeSet

end Highlight
