import Highlight.Engine
import Highlight.Proofs.Grammar.Checked

/-!
# The first bad token

The check goes through the tokens once and compares each with the one before it.  What it finds is
the least index of a malformed token, where malformed means the same wherever the check stands; so
it lets a list pass if and only if no token of the list is malformed.
-/

namespace Highlight

/-- The least number with a property. -/
def First (p : Nat → Prop) (i : Nat) : Prop := p i ∧ ∀ j < i, ¬ p j

section

variable {p : Nat → Prop} {i j : Nat}

theorem first_zero : First p 0 ↔ p 0 := by
  simp [First]

theorem first_succ (hzero : ¬ p 0) : First p (i + 1) ↔ First (fun n => p (n + 1)) i := by
  constructor
  · rintro ⟨hp, hbefore⟩
    exact ⟨hp, fun j hj => hbefore (j + 1) (Nat.succ_lt_succ hj)⟩
  · rintro ⟨hp, hbefore⟩
    refine ⟨hp, fun j hj => ?_⟩
    cases j with
    | zero => exact hzero
    | succ j => exact hbefore j (Nat.lt_of_succ_lt_succ hj)

theorem not_first_succ (hzero : p 0) : ¬ First p (i + 1) :=
  fun h => h.2 0 (Nat.succ_pos i) hzero

end

/-- The token at an index is empty or inverted, ends outside a text of that length, or starts before
the end of the token in front of it. -/
def Malformed (length : Nat) (ts : List Token) (i : Nat) : Prop :=
  ∃ t, ts[i]? = some t ∧
    (t.stop ≤ t.start ∨ length < t.stop ∨ ∃ j u, j + 1 = i ∧ ts[j]? = some u ∧ t.start < u.stop)

section

variable {length i : Nat} {t u : Token} {ts : List Token}

theorem not_malformed_of_length_le (h : ts.length ≤ i) : ¬ Malformed length ts i := by
  rintro ⟨t, ht, -⟩
  rw [List.getElem?_eq_none h] at ht
  simp at ht

theorem malformed_cons_zero :
    Malformed length (t :: ts) 0 ↔ t.stop ≤ t.start ∨ length < t.stop := by
  simp [Malformed]

theorem malformed_cons_one :
    Malformed length (t :: u :: ts) 1 ↔ u.start < t.stop ∨ u.stop ≤ u.start ∨ length < u.stop := by
  simp only [Malformed, List.getElem?_cons_succ, List.getElem?_cons_zero, Option.some.injEq]
  constructor
  · rintro ⟨_, rfl, hempty | houtside | ⟨j, v, hj, hv, hearly⟩⟩
    · exact Or.inr (Or.inl hempty)
    · exact Or.inr (Or.inr houtside)
    · obtain rfl : j = 0 := Nat.succ.inj hj
      obtain rfl : t = v := by simpa using hv
      exact Or.inl hearly
  · rintro (hearly | hempty | houtside)
    · exact ⟨u, rfl, Or.inr (Or.inr ⟨0, t, rfl, rfl, hearly⟩)⟩
    · exact ⟨u, rfl, Or.inl hempty⟩
    · exact ⟨u, rfl, Or.inr (Or.inl houtside)⟩

/-- Only the token in front counts, and no other before it. -/
theorem malformed_cons_succ :
    Malformed length (t :: ts) (i + 2) ↔ Malformed length ts (i + 1) := by
  have hfront : ∀ v : Token, (∃ j u, j + 1 = i + 2 ∧ (t :: ts)[j]? = some u ∧ v.start < u.stop) ↔
      ∃ j u, j + 1 = i + 1 ∧ ts[j]? = some u ∧ v.start < u.stop := by
    intro v
    constructor
    · rintro ⟨j, u, hj, hu, hearly⟩
      obtain rfl : j = i + 1 := Nat.succ.inj hj
      exact ⟨i, u, rfl, hu, hearly⟩
    · rintro ⟨j, u, hj, hu, hearly⟩
      obtain rfl : j = i := Nat.succ.inj hj
      exact ⟨j + 1, u, rfl, hu, hearly⟩
  simp only [Malformed, List.getElem?_cons_succ, hfront]

end

namespace Grammar

variable {length i : Nat} {ts : List Token}

theorem firstMalformed?_succ (length bound k : Nat) (ts : List Token) :
    firstMalformed? length bound (k + 1) ts = (firstMalformed? length bound k ts).map (· + 1) := by
  induction ts generalizing bound k with
  | nil => rfl
  | cons t ts ih =>
      simp only [firstMalformed?, ih]
      split <;> rfl

/-- The check stops at a bad token, and otherwise where it stops behind that token. -/
theorem firstMalformed?_cons_eq_some_iff {bound : Nat} {p : Nat → Prop} {t : Token}
    (hhead : (t.start < bound ∨ t.stop ≤ t.start ∨ length < t.stop) ↔ p 0)
    (hrest : ∀ j, firstMalformed? length t.stop 0 ts = some j ↔ First (fun n => p (n + 1)) j) :
    firstMalformed? length bound 0 (t :: ts) = some i ↔ First p i := by
  have hbad : (t.start < bound || t.stop ≤ t.start || length < t.stop) = true ↔ p 0 := by
    simpa [or_assoc] using hhead
  rw [firstMalformed?]
  split
  · rename_i h
    have hzero := hbad.mp h
    cases i with
    | zero => simpa [first_zero] using hzero
    | succ i => simpa using not_first_succ hzero
  · rename_i h
    have hzero : ¬ p 0 := fun hp => h (hbad.mpr hp)
    rw [firstMalformed?_succ]
    cases i with
    | zero => simpa [first_zero] using hzero
    | succ i => simp [first_succ hzero, ← hrest]

theorem firstMalformed?_behind {t : Token} :
    firstMalformed? length t.stop 0 ts = some i ↔
      First (fun n => Malformed length (t :: ts) (n + 1)) i := by
  induction ts generalizing t i with
  | nil =>
      have hnone : ∀ n, ¬ Malformed length [t] (n + 1) := fun n =>
        not_malformed_of_length_le (by simp)
      simp [firstMalformed?, First, hnone]
  | cons u us ih =>
      apply firstMalformed?_cons_eq_some_iff malformed_cons_one.symm
      intro j
      simp only [malformed_cons_succ]
      exact ih

theorem firstMalformed?_eq_some_iff :
    firstMalformed? length 0 0 ts = some i ↔ First (Malformed length ts) i := by
  cases ts with
  | nil =>
      have hnone : ∀ n, ¬ Malformed length [] n :=
        fun n => not_malformed_of_length_le (Nat.zero_le n)
      simp [firstMalformed?, First, hnone]
  | cons t ts =>
      apply firstMalformed?_cons_eq_some_iff
      · simp [malformed_cons_zero]
      · exact fun j => firstMalformed?_behind

/-- The check finds a bad token wherever there is one. -/
theorem firstMalformed?_eq_none :
    firstMalformed? length 0 0 ts = none ↔ ∀ i, ¬ Malformed length ts i := by
  constructor
  · intro hnone i
    -- the least of the bad indices would have been found
    induction i using Nat.strongRecOn with
    | ind i ih =>
        intro hbad
        have hfound := firstMalformed?_eq_some_iff.mpr ⟨hbad, ih⟩
        simp [hnone] at hfound
  · intro hgood
    cases hfound : firstMalformed? length 0 0 ts with
    | none => rfl
    | some i => exact absurd (firstMalformed?_eq_some_iff.mp hfound).1 (hgood i)

theorem check_of_count {g : Grammar} {text : String} {limits : Limits}
    (h : g.tokenize text limits = .ok ts) (hcount : ts.length ≤ limits.maxTokens) :
    g.check text limits =
      match firstMalformed? text.length 0 0 ts with
      | some i => .error (.malformedOutput g.name i)
      | none => .ok ts := by
  rw [check, h]
  exact if_neg (Nat.not_lt.mpr hcount)

end Grammar

theorem Region.decorate_inside {r : Region} {ts : List Token} (h : ∀ t ∈ ts, t.Inside r.text.length)
    {x : Decoration} (hx : x ∈ r.decorate ts) :
    r.start ≤ x.start ∧ x.start < x.stop ∧ x.stop ≤ r.start + r.text.length := by
  obtain ⟨t, ht, rfl⟩ := List.mem_map.mp hx
  obtain ⟨hlt, hle⟩ := h t (List.mem_filter.mp ht).1
  dsimp only
  omega

theorem Region.decorate_pairwise (r : Region) {ts : List Token}
    (h : ts.Pairwise fun t u => t.stop ≤ u.start) :
    (r.decorate ts).Pairwise fun x y => x.stop ≤ y.start := by
  apply List.Pairwise.map _ _ (h.filter _)
  exact fun t u hle => Nat.add_le_add_left hle r.start

/-- If the grammar fails, so does the check, for the same reason.  If it gives too many tokens, that
is the reason; otherwise the check blames the first malformed token, and lets the tokens pass
unchanged if and only if there is none.  So the decorations that are made of what has passed are not
empty, stand in order and apart, and lie inside the text of their region. -/
theorem check_blames_the_first_bad_token (g : Grammar) (text : String) (limits : Limits) :
    (∀ e, g.tokenize text limits = .error e → g.check text limits = .error e) ∧
    (∀ ts, g.tokenize text limits = .ok ts →
      (limits.maxTokens < ts.length →
        g.check text limits = .error (.tooManyTokens limits.maxTokens)) ∧
      (ts.length ≤ limits.maxTokens →
        (∀ i, g.check text limits = .error (.malformedOutput g.name i) ↔
          Malformed text.length ts i ∧ ∀ j < i, ¬ Malformed text.length ts j) ∧
        (g.check text limits = .ok ts ↔ ∀ i, ¬ Malformed text.length ts i) ∧
        ∀ us, g.check text limits = .ok us → us = ts)) ∧
    ∀ (r : Region) (ts : List Token), r.text = text → g.check text limits = .ok ts →
      r.highlight? g limits = some (r.decorate ts) ∧
      (∀ x ∈ r.decorate ts,
        r.start ≤ x.start ∧ x.start < x.stop ∧ x.stop ≤ r.start + r.text.length) ∧
      (r.decorate ts).Pairwise fun x y => x.stop ≤ y.start := by
  refine ⟨fun e => Grammar.check_of_error, ?_, ?_⟩
  · intro ts htokens
    constructor
    · intro hcount
      rw [Grammar.check, htokens]
      exact if_pos hcount
    · intro hcount
      rw [Grammar.check_of_count htokens hcount]
      cases hfound : Grammar.firstMalformed? text.length 0 0 ts with
      | none =>
          have hgood := Grammar.firstMalformed?_eq_none.mp hfound
          simp [hgood, eq_comm]
      | some i =>
          have hbad := Grammar.firstMalformed?_eq_some_iff.mp hfound
          refine ⟨fun k => ?_, ?_, by simp⟩
          · rw [← First, ← Grammar.firstMalformed?_eq_some_iff, hfound]
            simp
          · simp only [reduceCtorEq, false_iff]
            exact fun hgood => hgood i hbad.1
  · rintro r ts rfl hok
    obtain ⟨hinside, hapart⟩ := Grammar.check_ok hok
    refine ⟨by rw [Region.highlight?, hok], ?_, r.decorate_pairwise hapart⟩
    exact fun x hx => Region.decorate_inside hinside hx

/-- The second token starts inside the first, and the third is inverted. -/
example : Grammar.firstMalformed? 9 0 0 [⟨0, 3, ["a"]⟩, ⟨2, 4, ["b"]⟩, ⟨8, 5, ["c"]⟩] = some 1 := by
  decide

end Highlight
