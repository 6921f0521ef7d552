import Highlight.Proofs.Pattern.Ways

/-!
# What every match takes up

A search that comes to a match has gone on with the rest at a later place, and between the two
places stands a character of every set that the pattern needs.  So a search of a text without such a
character is in vain, and leaving it out changes nothing: `find` tries one start after the other.
-/

namespace Highlight.Pattern

/-- Between two places stands a character of every set. -/
def Meets (hay : Array Char) (sets : List CharSet) (p q : Nat) : Prop :=
  ∀ s ∈ sets, ∃ i c, p ≤ i ∧ i < q ∧ hay[i]? = some c ∧ s.mem c = true

namespace Meets

variable {hay : Array Char} {sets : List CharSet} {p q : Nat}

theorem nil : Meets hay [] p q := by simp [Meets]

theorem single {s : CharSet} {c : Char} (hpq : p < q) (hc : hay[p]? = some c)
    (hs : s.mem c = true) : Meets hay [s] p q := by
  intro s' hs'
  obtain rfl := List.mem_singleton.1 hs'
  exact ⟨p, c, Nat.le_refl p, hpq, hc, hs⟩

theorem widen {p' q' : Nat} (h : Meets hay sets p q) (hp : p' ≤ p) (hq : q ≤ q') :
    Meets hay sets p' q' := by
  intro s hs
  obtain ⟨i, c, hi, hi', hc⟩ := h s hs
  exact ⟨i, c, Nat.le_trans hp hi, Nat.lt_of_lt_of_le hi' hq, hc⟩

theorem append {more : List CharSet} (h : Meets hay sets p q) (h' : Meets hay more p q) :
    Meets hay (sets ++ more) p q := by
  intro s hs
  rcases List.mem_append.1 hs with hs | hs
  · exact h s hs
  · exact h' s hs

end Meets

/-- A search that came to a match went on with the rest at a later place, past what it needs. -/
def WentOn (hay : Array Char) (sets : List CharSet) (k : Rest) (p : Nat) (h : Hit) : Prop :=
  ∃ q t tried, p ≤ q ∧ Meets hay sets p q ∧ (k q t tried).1 = some h

variable {hay : Array Char}

/-- Between the ends of a way stands a character of every set that the pattern needs. -/
theorem Way.meets {a : Pattern} {p q : Nat} {t u : Option Span} (h : Way hay a p t q u) :
    Meets hay a.needs p q := by
  induction h with
  | empty | look | left | right => exact .nil
  | char hc hs => exact .single (Nat.lt_succ_self _) hc hs
  | seq ha hb iha ihb =>
      exact (iha.widen (Nat.le_refl _) hb.le).append (ihb.widen ha.le (Nat.le_refl _))
  | token _ ih | once _ ih | last _ ih => exact ih
  | more ha hm iha ihm => exact ihm.widen ha.le (Nat.le_refl _)
  | stretch hpq hs =>
      obtain ⟨c, hc, hmem⟩ := hs _ (Nat.le_refl _) hpq
      exact .single hpq hc hmem

/-- A search comes to a match only by way of the rest, past what the pattern needs. -/
theorem run_eq_some {a : Pattern} {k : Rest} {p : Nat} {t : Option Span} {tried : Tried} {h : Hit}
    (hr : (a.run hay k p t tried).1 = some h) : WentOn hay a.needs k p h := by
  obtain ⟨q, u, tried', hway, hk⟩ := went_of_run hr
  exact ⟨q, u, tried', hway.le, hway.meets, hk⟩

theorem any_of_matchAt {a : Pattern} {p p' : Nat} {h : Hit} (hp : p ≤ p')
    (hm : a.matchAt hay p' = some h) : (a.needs.all fun s => hay.any s.mem p) = true := by
  obtain ⟨q, -, -, -, hmeets, -⟩ := run_eq_some hm
  rw [List.all_eq_true]
  intro s hs
  obtain ⟨i, c, hi, -, hc, hmem⟩ := hmeets s hs
  obtain ⟨hlt, hget⟩ := Array.getElem?_eq_some_iff.1 hc
  exact Array.any_iff_exists.2 ⟨i, hlt, Nat.le_trans hp hi, hlt, by rw [hget]; exact hmem⟩

theorem any_of_findWithin {a : Pattern} {h : Hit} {p : Nat} :
    ∀ {n p' : Nat}, p ≤ p' → a.findWithin hay n p' = some h →
      (a.needs.all fun s => hay.any s.mem p) = true := by
  intro n
  induction n with
  | zero => intro p' _ hf; simp [findWithin] at hf
  | succ n ih =>
      intro p' hp hf
      rw [findWithin] at hf
      split at hf
      · rename_i h' hm
        exact any_of_matchAt hp hm
      · exact ih (Nat.le_succ_of_le hp) hf

/-- The match with the smallest start is the first one that trying the starts in order comes to. -/
theorem find_eq_findWithin (a : Pattern) (hay : Array Char) (p : Nat) :
    a.find hay p = a.findWithin hay (hay.size + 1 - p) p := by
  rw [find]
  split
  · rfl
  · rename_i hneeds
    cases hf : a.findWithin hay (hay.size + 1 - p) p with
    | none => rfl
    | some h => exact absurd (any_of_findWithin (Nat.le_refl p) hf) hneeds

end Highlight.Pattern
