/-!
# Finite tables

A table has at most one entry for each key.  Entering a value for a key takes the place of the entry
that was there.
-/

namespace Highlight

/-- A finite table; keys are distinct. -/
structure Table (K V : Type) where
  entries : List (K × V) := []
  nodup_keys : (entries.map Prod.fst).Nodup := by exact List.nodup_nil

namespace Table

variable {K V : Type} [DecidableEq K]

def get? (t : Table K V) (k : K) : Option V := t.entries.lookup k

/-- Whether there is an entry for a key. -/
def contains (t : Table K V) (k : K) : Bool := (t.get? k).isSome

def size (t : Table K V) : Nat := t.entries.length

/-- Keeps the entries whose keys satisfy a condition. -/
def keep (t : Table K V) (p : K → Bool) : Table K V where
  entries := t.entries.filter fun e => p e.1
  nodup_keys := (List.filter_sublist.map Prod.fst).nodup t.nodup_keys

def insert (t : Table K V) (k : K) (v : V) : Table K V where
  entries := (k, v) :: (t.keep (· ≠ k)).entries
  nodup_keys := by
    refine List.nodup_cons.2 ⟨?_, (t.keep (· ≠ k)).nodup_keys⟩
    simp [keep]

def empty : Table K V := {}

@[simp] theorem get?_empty (k : K) : (empty : Table K V).get? k = none := rfl

@[simp] theorem get?_insert_self (t : Table K V) (k : K) (v : V) :
    (t.insert k v).get? k = some v := by
  simp [get?, insert]

theorem lookup_filter (p : K → Bool) (k : K) (hk : p k = true) (es : List (K × V)) :
    (es.filter fun e => p e.1).lookup k = es.lookup k := by
  induction es with
  | nil => rfl
  | cons e es ih =>
      obtain ⟨j, v⟩ := e
      by_cases hj : p j = true
      · simp [hj, List.lookup_cons, ih]
      · have hne : (k == j) = false := by
          simp only [beq_eq_false_iff_ne]
          rintro rfl
          exact hj hk
        simp [hj, List.lookup_cons, hne, ih]

theorem lookup_filter_of_not (p : K → Bool) (k : K) (hk : p k = false) (es : List (K × V)) :
    (es.filter fun e => p e.1).lookup k = none := by
  induction es with
  | nil => rfl
  | cons e es ih =>
      obtain ⟨j, v⟩ := e
      by_cases hj : p j = true
      · have hne : (k == j) = false := by
          simp only [beq_eq_false_iff_ne]
          rintro rfl
          simp [hk] at hj
        simp [hj, List.lookup_cons, hne, ih]
      · simp [hj, ih]

theorem get?_insert_of_ne (t : Table K V) {k k' : K} (v : V) (h : k' ≠ k) :
    (t.insert k v).get? k' = t.get? k' := by
  have hne : (k' == k) = false := by simpa using h
  simp only [get?, insert, keep, List.lookup_cons, hne]
  exact lookup_filter (fun x => decide (x ≠ k)) k' (by simpa using h) t.entries

theorem get?_insert (t : Table K V) (k k' : K) (v : V) :
    (t.insert k v).get? k' = if k' = k then some v else t.get? k' := by
  by_cases h : k' = k
  · simp [h]
  · simp [h, get?_insert_of_ne t v h]

theorem get?_keep (t : Table K V) (p : K → Bool) (k : K) :
    (t.keep p).get? k = if p k then t.get? k else none := by
  by_cases hk : p k = true
  · simpa [get?, keep, hk] using lookup_filter p k hk t.entries
  · simpa [get?, keep, hk] using lookup_filter_of_not p k (by simpa using hk) t.entries

theorem forall_insert {t : Table K V} {P : V → Prop} (h : ∀ k v, t.get? k = some v → P v) {v : V}
    (hv : P v) (k : K) : ∀ k' v', (t.insert k v).get? k' = some v' → P v' := by
  intro k' v' hget
  rw [get?_insert] at hget
  split at hget
  · obtain rfl : v = v' := Option.some.inj hget
    exact hv
  · exact h k' v' hget

theorem forall_keep {t : Table K V} {P : V → Prop} (h : ∀ k v, t.get? k = some v → P v)
    (p : K → Bool) : ∀ k v, (t.keep p).get? k = some v → P v := by
  intro k v hget
  rw [get?_keep] at hget
  split at hget
  · exact h k v hget
  · exact absurd hget.symm (Option.some_ne_none v)

end Table

end Highlight
