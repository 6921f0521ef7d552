import Highlight.Proofs.Document.Splice

/-!
# Change sets that are run

A change set knows lengths only.  Run over a list of entries, with a second list that the insertions
draw from, it gives the next list, and it fails unless its runs use up both lists.  The normal form
that the calls keep does not matter to this: a change set does what the calls that built it say, one
after the other.  The entries that it does not delete are found again where `mapPos` says.
-/

namespace Highlight

namespace ChangeSet

section Performing

variable {α : Type}

/-- Runs over the old entries, with the entries that come in. -/
@[grind =]
def performRuns : List Run → List α → List α → Option (List α)
  | [], old, arriving => if old.isEmpty ∧ arriving.isEmpty then some [] else none
  | .retain n :: rs, old, arriving =>
      if n ≤ old.length then
        (performRuns rs (old.drop n) arriving).map (old.take n ++ ·)
      else none
  | .delete n :: rs, old, arriving =>
      if n ≤ old.length then performRuns rs (old.drop n) arriving else none
  | .insert n :: rs, old, arriving =>
      if n ≤ arriving.length then
        (performRuns rs old (arriving.drop n)).map (arriving.take n ++ ·)
      else none

/-- Runs a change set over the old entries, with the entries that come in. -/
def perform (c : ChangeSet) (old arriving : List α) : Option (List α) :=
  performRuns c.runs old arriving

/-- Whether a position, counted from the first run's place, is in a deleted run. -/
def deletesThrough : List Run → Nat → Bool
  | [], _ => false
  | .retain n :: rs, p => n ≤ p && deletesThrough rs (p - n)
  | .delete n :: rs, p => p < n || deletesThrough rs (p - n)
  | .insert _ :: rs, p => deletesThrough rs p

def deletes (c : ChangeSet) (p : Nat) : Bool := deletesThrough c.runs p

variable {rs : List Run} {old arriving new : List α} {c : ChangeSet} {n : Nat}

theorem performRuns_retain_eq_some (h : performRuns (.retain n :: rs) old arriving = some new) :
    ∃ kept rest last, kept.length = n ∧ old = kept ++ rest ∧ new = kept ++ last ∧
      performRuns rs rest arriving = some last := by
  simp only [performRuns, Option.ite_none_right_eq_some, Option.map_eq_some_iff] at h
  obtain ⟨hn, last, hrest, rfl⟩ := h
  exact ⟨old.take n, old.drop n, last, List.length_take_of_le hn,
    (List.take_append_drop n old).symm, rfl, hrest⟩

theorem performRuns_delete_eq_some (h : performRuns (.delete n :: rs) old arriving = some new) :
    ∃ gone rest, gone.length = n ∧ old = gone ++ rest ∧
      performRuns rs rest arriving = some new := by
  simp only [performRuns, Option.ite_none_right_eq_some] at h
  exact ⟨old.take n, old.drop n, List.length_take_of_le h.1, (List.take_append_drop n old).symm,
    h.2⟩

theorem performRuns_insert_eq_some (h : performRuns (.insert n :: rs) old arriving = some new) :
    ∃ put last, put.length = n ∧ new = put ++ last ∧
      performRuns rs old (arriving.drop n) = some last := by
  simp only [performRuns, Option.ite_none_right_eq_some, Option.map_eq_some_iff] at h
  obtain ⟨hn, last, hrest, rfl⟩ := h
  exact ⟨arriving.take n, last, List.length_take_of_le hn, rfl, hrest⟩

/-- An entry that is not deleted is found again at its new place. -/
theorem getElem?_of_performRuns {p : Nat} {e : α} (h : performRuns rs old arriving = some new)
    (hp : old[p]? = some e) (hkept : deletesThrough rs p = false) :
    new[mapThrough .right rs p]? = some e := by
  induction rs generalizing old arriving new p with
  | nil =>
      have hold : old = [] := by
        simp only [performRuns, List.isEmpty_iff, Option.ite_none_right_eq_some] at h
        exact h.1.1
      simp [hold] at hp
  | cons r rs ih =>
      cases r with
      | retain n =>
          obtain ⟨kept, rest, last, rfl, rfl, rfl, hrest⟩ := performRuns_retain_eq_some h
          simp only [mapThrough]
          split
          · rename_i hlt
            rw [List.getElem?_append_left hlt] at hp ⊢
            exact hp
          · rename_i hge
            have hle : kept.length ≤ p := Nat.le_of_not_lt hge
            rw [List.getElem?_append_right hle] at hp
            rw [List.getElem?_append_right (Nat.le_add_right _ _), Nat.add_sub_cancel_left]
            exact ih hrest hp (by simpa [deletesThrough, hle] using hkept)
      | delete n =>
          obtain ⟨gone, rest, rfl, rfl, hrest⟩ := performRuns_delete_eq_some h
          obtain ⟨hle, hkept⟩ : gone.length ≤ p ∧ deletesThrough rs (p - gone.length) = false := by
            simpa [deletesThrough] using hkept
          rw [List.getElem?_append_right hle] at hp
          rw [mapThrough, if_neg (Nat.not_lt.mpr hle)]
          exact ih hrest hp hkept
      | insert n =>
          obtain ⟨put, last, rfl, rfl, hrest⟩ := performRuns_insert_eq_some h
          rw [mapThrough, if_neg (by simp), List.getElem?_append_right (Nat.le_add_right _ _),
            Nat.add_sub_cancel_left]
          exact ih hrest hp hkept

theorem performRuns_retain_add (m n : Nat) (rs : List Run) (old arriving : List α) :
    performRuns (.retain (m + n) :: rs) old arriving =
      performRuns (.retain m :: .retain n :: rs) old arriving := by
  simp only [performRuns, List.length_drop, List.drop_drop, List.take_add]
  by_cases hm : m ≤ old.length
  · have hn : m + n ≤ old.length ↔ n ≤ old.length - m := by omega
    simp only [hm, hn, if_true]
    split <;> simp [Function.comp_def]
  · simp [hm, show ¬ m + n ≤ old.length by omega]

theorem performRuns_delete_add (m n : Nat) (rs : List Run) (old arriving : List α) :
    performRuns (.delete (m + n) :: rs) old arriving =
      performRuns (.delete m :: .delete n :: rs) old arriving := by
  simp only [performRuns, List.length_drop, List.drop_drop]
  by_cases hm : m ≤ old.length
  · have hn : m + n ≤ old.length ↔ n ≤ old.length - m := by omega
    simp only [hm, hn, if_true]
  · simp [hm, show ¬ m + n ≤ old.length by omega]

theorem performRuns_insert_add (m n : Nat) (rs : List Run) (old arriving : List α) :
    performRuns (.insert (m + n) :: rs) old arriving =
      performRuns (.insert m :: .insert n :: rs) old arriving := by
  simp only [performRuns, List.length_drop, List.drop_drop, List.take_add]
  by_cases hm : m ≤ arriving.length
  · have hn : m + n ≤ arriving.length ↔ n ≤ arriving.length - m := by omega
    simp only [hm, hn, if_true]
    split <;> simp [Function.comp_def]
  · simp [hm, show ¬ m + n ≤ arriving.length by omega]

/-- What is put in after a deletion comes to the place where it would be put before it. -/
theorem performRuns_delete_insert (m n : Nat) (rs : List Run) (old arriving : List α) :
    performRuns (.delete m :: .insert n :: rs) old arriving =
      performRuns (.insert n :: .delete m :: rs) old arriving := by
  simp only [performRuns]
  split <;> split <;> rfl

theorem lawful_performRuns : Lawful (performRuns (α := α)) where
  cons r rs rs' h := by
    funext old arriving
    cases r <;> simp only [performRuns, h]
  of_empty r rs h := by
    funext old arriving
    cases r <;> simp_all [performRuns, Run.length]
  retain_add m n rs := by
    funext old arriving
    exact performRuns_retain_add m n rs old arriving
  delete_add m n rs := by
    funext old arriving
    exact performRuns_delete_add m n rs old arriving
  insert_add m n rs := by
    funext old arriving
    exact performRuns_insert_add m n rs old arriving
  delete_insert m n rs := by
    funext old arriving
    exact performRuns_delete_insert m n rs old arriving

/-- A change set does what the calls that built it say. -/
theorem perform_ofRuns (rs : List Run) (old arriving : List α) :
    (ofRuns rs).perform old arriving = performRuns rs old arriving := by
  rw [perform, lawful_performRuns.ofRuns]

theorem splice_eq_ofRuns (a m n r : Nat) :
    splice a m n r = ofRuns [.retain a, .delete m, .insert n, .retain r] := rfl

theorem perform_splice (before gone arriving after : List α) :
    (splice before.length gone.length arriving.length after.length).perform
      (before ++ (gone ++ after)) arriving = some (before ++ (arriving ++ after)) := by
  rw [splice_eq_ofRuns, perform_ofRuns]
  simp [performRuns]

end Performing

theorem lawful_deletesThrough : Lawful deletesThrough where
  cons r rs rs' h := by
    funext p
    cases r <;> simp only [deletesThrough, h]
  of_empty r rs h := by
    funext p
    cases r <;> simp_all [deletesThrough, Run.length]
  retain_add m n rs := by
    funext p
    have hle : m + n ≤ p ↔ m ≤ p ∧ n ≤ p - m := by omega
    simp [deletesThrough, hle, Nat.sub_sub, Bool.and_assoc]
  delete_add m n rs := by
    funext p
    have hlt : p < m + n ↔ p < m ∨ p - m < n := by omega
    simp [deletesThrough, hlt, Nat.sub_sub, Bool.or_assoc]
  insert_add m n rs := rfl
  delete_insert m n rs := rfl

/-- A change set deletes what the calls that built it delete. -/
theorem deletes_ofRuns (rs : List Run) (p : Nat) : (ofRuns rs).deletes p = deletesThrough rs p := by
  rw [deletes, lawful_deletesThrough.ofRuns]

theorem deletes_splice (a m n r p : Nat) :
    (splice a m n r).deletes p = (decide (a ≤ p) && decide (p - a < m)) := by
  rw [splice_eq_ofRuns, deletes_ofRuns]
  simp [deletesThrough]

theorem sizes_splice (a m n r : Nat) :
    (splice a m n r).sizeBefore = a + m + r ∧ (splice a m n r).sizeAfter = a + n + r := by
  rw [splice_eq_ofRuns, (sizes_ofRuns _).1, (sizes_ofRuns _).2]
  simp
  omega

end ChangeSet

end Highlight
