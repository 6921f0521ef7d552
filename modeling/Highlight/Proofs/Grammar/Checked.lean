import Highlight.Grammar.Basic

/-!
# Checked tokens

The tokens that pass the check lie inside the text, are not empty, and stand in order and apart.
-/

namespace Highlight

/-- The token covers something, and all of it is inside a text of that length. -/
def Token.Inside (length : Nat) (t : Token) : Prop := t.start < t.stop ∧ t.stop ≤ length

namespace Grammar

/-- The grammar that takes each text for one token. -/
def whole : Grammar := ⟨"whole", fun text _ => .ok [⟨0, text.length, ["text"]⟩]⟩

theorem firstMalformed?_eq_none_iff {length bound i : Nat} {ts : List Token} :
    firstMalformed? length bound i ts = none ↔
      (∀ t ∈ ts, bound ≤ t.start ∧ t.Inside length) ∧ ts.Pairwise fun t u => t.stop ≤ u.start := by
  induction ts generalizing bound i with
  | nil => simp [firstMalformed?]
  | cons t ts ih =>
      have hhead : (t.start < bound || t.stop ≤ t.start || length < t.stop) = false ↔
          bound ≤ t.start ∧ t.Inside length := by
        simp [Token.Inside, and_assoc]
      rw [firstMalformed?, List.forall_mem_cons, List.pairwise_cons]
      cases hc : t.start < bound || t.stop ≤ t.start || length < t.stop with
      | true =>
          have hbad : ¬ (bound ≤ t.start ∧ t.Inside length) := by
            rw [← hhead, hc]
            simp
          simp [hbad]
      | false =>
          have ht := hhead.mp hc
          simp only [Bool.false_eq_true, if_false, ih, ht, true_and]
          constructor
          · rintro ⟨hall, hpair⟩
            refine ⟨fun u hu => ?_, fun u hu => (hall u hu).1, hpair⟩
            obtain ⟨hstop, hin⟩ := hall u hu
            exact ⟨Nat.le_trans ht.1 (Nat.le_trans (Nat.le_of_lt ht.2.1) hstop), hin⟩
          · rintro ⟨hall, hfirst, hpair⟩
            exact ⟨fun u hu => ⟨hfirst u hu, (hall u hu).2⟩, hpair⟩

theorem check_ok {g : Grammar} {text : String} {limits : Limits} {ts : List Token}
    (h : g.check text limits = .ok ts) :
    (∀ t ∈ ts, t.Inside text.length) ∧ ts.Pairwise fun t u => t.stop ≤ u.start := by
  unfold check at h
  cases ht : g.tokenize text limits with
  | error e => simp [ht] at h
  | ok tokens =>
      simp only [ht] at h
      split at h
      · simp at h
      · cases hm : firstMalformed? text.length 0 0 tokens with
        | some i => simp [hm] at h
        | none =>
            obtain rfl : tokens = ts := by simpa [hm] using h
            obtain ⟨hall, hpair⟩ := firstMalformed?_eq_none_iff.mp hm
            exact ⟨fun t ht => (hall t ht).2, hpair⟩

theorem check_of_error {g : Grammar} {text : String} {limits : Limits} {e : TokenizeError}
    (h : g.tokenize text limits = .error e) : g.check text limits = .error e := by
  simp [check, h]

theorem check_of_ok {g : Grammar} {text : String} {limits : Limits} {ts : List Token}
    (h : g.tokenize text limits = .ok ts) (hcount : ts.length ≤ limits.maxTokens)
    (hinside : ∀ t ∈ ts, t.Inside text.length) (hapart : ts.Pairwise fun t u => t.stop ≤ u.start) :
    g.check text limits = .ok ts := by
  have hnone : firstMalformed? text.length 0 0 ts = none :=
    firstMalformed?_eq_none_iff.mpr ⟨fun t ht => ⟨Nat.zero_le _, hinside t ht⟩, hapart⟩
  simp [check, h, hnone, Nat.not_lt.mpr hcount]

end Grammar

end Highlight
