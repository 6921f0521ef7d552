import Highlight.Proofs.Pattern.Ways

/-!
# Plain patterns

A plain pattern repeats nothing, so none of its parts has a number, and numbering leaves it as it
is.  A search for it keeps no record of its own: when it comes to no match, it leaves the record as
it found it.  Hence an alternative that fails takes nothing away from those after it, and the search
comes to a match whenever there is a way that the rest accepts.
-/

namespace Highlight.Pattern

/-- Nothing in the pattern is repeated or guarded. -/
def plain : Pattern → Bool
  | empty => true
  | char _ => true
  | look _ => true
  | seq a b => a.plain && b.plain
  | alt a b => a.plain && b.plain
  | token a => a.plain
  | once _ _ => false
  | many _ _ _ => false
  | stretch _ _ _ => false

theorem numberFrom_of_plain {a : Pattern} (ha : a.plain = true) (n : Nat) :
    a.numberFrom false n = (a, n) := by
  induction a generalizing n with
  | empty | char | look => rfl
  | seq a b iha ihb =>
      obtain ⟨ha, hb⟩ := Bool.and_eq_true_iff.mp ha
      simp only [numberFrom, iha ha, ihb hb]
  | alt a b iha ihb =>
      obtain ⟨ha, hb⟩ := Bool.and_eq_true_iff.mp ha
      simp [numberFrom, iha ha, ihb hb]
  | token a ih => simp only [numberFrom, ih ha]
  | once | many | stretch => simp [plain] at ha

theorem number_of_plain {a : Pattern} (ha : a.plain = true) : a.number = a := by
  rw [number, numberFrom_of_plain ha]

/-- When the rest comes to no match, it leaves the record as it was. -/
def Traceless (k : Rest) : Prop :=
  ∀ q u tried, (k q u tried).1 = none → k q u tried = (none, tried)

variable {hay : Array Char} {a : Pattern} {k : Rest} {p q : Nat} {t u : Option Span}

theorem Traceless.run (ha : a.plain = true) (hk : Traceless k) : Traceless (a.run hay k) := by
  induction a generalizing k with
  | empty => exact hk
  | char s =>
      intro p t tried hnone
      rw [Pattern.run] at hnone ⊢
      split
      · rfl
      · rename_i c hc
        simp only [hc] at hnone
        split
        · rename_i hs
          exact hk _ _ _ (by simpa [hs] using hnone)
        · rfl
  | look l =>
      intro p t tried hnone
      rw [Pattern.run] at hnone ⊢
      split
      · rename_i hl
        exact hk _ _ _ (by simpa [hl] using hnone)
      · rfl
  | seq a b iha ihb =>
      obtain ⟨ha, hb⟩ := Bool.and_eq_true_iff.mp ha
      exact iha ha (ihb hb hk)
  | alt a b iha ihb =>
      obtain ⟨ha, hb⟩ := Bool.and_eq_true_iff.mp ha
      intro p t tried hnone
      cases hfirst : (a.run hay k p t tried).1 with
      | none =>
          have hsame := iha ha hk p t tried hfirst
          rw [Pattern.run, hsame] at hnone ⊢
          exact ihb hb hk p t tried hnone
      | some h =>
          rw [Pattern.run] at hnone
          split at hnone
          · simp_all
          · simp [hfirst] at hnone
  | token a ih =>
      intro p t tried hnone
      exact ih ha (fun q _ => hk q (some ⟨p, q⟩)) p t tried hnone
  | once | many | stretch => simp [plain] at ha

/-- The search finds a match when there is a way that the rest accepts, whatever the record says. -/
theorem run_ne_none (ha : a.plain = true) (hk : Traceless k) (hway : Way hay a p t q u)
    (hq : ∀ tried, (k q u tried).1 ≠ none) (tried : Tried) :
    (a.run hay k p t tried).1 ≠ none := by
  induction hway generalizing k tried with
  | empty => exact hq tried
  | char hc hs => simpa [run, hc, hs] using hq tried
  | look hl => simpa [run, hl] using hq tried
  | seq hfirst hsecond iha ihb =>
      obtain ⟨ha, hb⟩ := Bool.and_eq_true_iff.mp ha
      exact iha ha (hk.run hb) (ihb hb hk hq) tried
  | left hfirst ih =>
      have hne := ih (Bool.and_eq_true_iff.mp ha).1 hk hq tried
      rw [run]
      split
      · simp_all
      · exact hne
  | @right a b p q t u hsecond ih =>
      obtain ⟨ha, hb⟩ := Bool.and_eq_true_iff.mp ha
      have hne := ih hb hk hq tried
      rw [run]
      split
      · rename_i tried' hfirst
        -- the alternative before it has failed and left no trace
        have hsame : a.run hay k p t tried = (none, tried) := hk.run ha p t tried (by rw [hfirst])
        obtain rfl : tried' = tried := congrArg Prod.snd (hfirst.symm.trans hsame)
        exact hne
      · rename_i hfirst
        intro hnone
        exact hfirst _ (Prod.ext hnone rfl)
  | @token a p q t u hfirst ih =>
      have hinner : Traceless fun q _ tried => k q (some ⟨p, q⟩) tried := fun q _ => hk q _
      exact ih ha hinner hq tried
  | once | last | more | stretch => simp [plain] at ha

theorem exists_matchAt (ha : a.plain = true) (hway : Way hay a p none q u) :
    ∃ h, a.matchAt hay p = some h := by
  rw [← Option.ne_none_iff_exists']
  refine run_ne_none ha (fun q t tried hnone => ?_) hway (fun tried => ?_) ∅
  · simp at hnone
  · simp

end Highlight.Pattern
