import Highlight.Pattern.Search

/-!
# Ways

A way of a pattern leads from a place of a text to a later one, and may set the token as it goes.
The rules for ways know nothing of preferences and of the record of what has been tried: a search
that comes to a match has gone such a way.  So every match lies inside the text, and its token
inside the match.
-/

namespace Highlight.Pattern

/-- The pattern takes up the text from one place to another; the token before it becomes the one
after it. -/
inductive Way (hay : Array Char) : Pattern → Nat → Option Span → Nat → Option Span → Prop
  | empty {p : Nat} {t : Option Span} : Way hay .empty p t p t
  | char {s : CharSet} {c : Char} {p : Nat} {t : Option Span} (hc : hay[p]? = some c)
      (hs : s.mem c = true) : Way hay (.char s) p t (p + 1) t
  | look {l : Look} {p : Nat} {t : Option Span} (hl : l.holds hay p = true) :
      Way hay (.look l) p t p t
  | seq {a b : Pattern} {p q r : Nat} {t u v : Option Span} (ha : Way hay a p t q u)
      (hb : Way hay b q u r v) : Way hay (.seq a b) p t r v
  | left {a b : Pattern} {p q : Nat} {t u : Option Span} (ha : Way hay a p t q u) :
      Way hay (.alt a b) p t q u
  | right {a b : Pattern} {p q : Nat} {t u : Option Span} (hb : Way hay b p t q u) :
      Way hay (.alt a b) p t q u
  | token {a : Pattern} {p q : Nat} {t u : Option Span} (ha : Way hay a p t q u) :
      Way hay (.token a) p t q (some ⟨p, q⟩)
  | once {id : Nat} {a : Pattern} {p q : Nat} {t u : Option Span} (ha : Way hay a p t q u) :
      Way hay (.once id a) p t q u
  | last {greedy : Bool} {id : Nat} {a : Pattern} {p q : Nat} {t u : Option Span}
      (ha : Way hay a p t q u) : Way hay (.many greedy id a) p t q u
  | more {greedy : Bool} {id : Nat} {a : Pattern} {p q r : Nat} {t u v : Option Span}
      (ha : Way hay a p t q u) (hmore : Way hay (.many greedy id a) q u r v) :
      Way hay (.many greedy id a) p t r v
  | stretch {greedy : Bool} {id : Nat} {s : CharSet} {p q : Nat} {t : Option Span} (hpq : p < q)
      (hs : ∀ i, p ≤ i → i < q → ∃ c, hay[i]? = some c ∧ s.mem c = true) :
      Way hay (.stretch greedy id s) p t q t

variable {hay : Array Char} {a : Pattern} {p q : Nat} {t u : Option Span}

namespace Way

theorem le (h : Way hay a p t q u) : p ≤ q := by
  induction h with
  | empty | look => exact Nat.le_refl _
  | char => exact Nat.le_succ _
  | seq _ _ iha ihb => exact Nat.le_trans iha ihb
  | left _ ih | right _ ih | token _ ih | once _ ih | last _ ih => exact ih
  | more _ _ iha ihm => exact Nat.le_trans iha ihm
  | stretch hpq => exact Nat.le_of_lt hpq

theorem stop_le (h : Way hay a p t q u) (hp : p ≤ hay.size) : q ≤ hay.size := by
  induction h with
  | empty | look => exact hp
  | char hc => exact (Array.getElem?_eq_some_iff.mp hc).1
  | seq _ _ iha ihb => exact ihb (iha hp)
  | left _ ih | right _ ih | token _ ih | once _ ih | last _ ih => exact ih hp
  | more _ _ iha ihm => exact ihm (iha hp)
  | stretch hpq hs =>
      rename_i q _
      obtain ⟨c, hc, -⟩ := hs (q - 1) (by omega) (by omega)
      have hlt := (Array.getElem?_eq_some_iff.mp hc).1
      omega

/-- A way leaves the token alone, or sets it to a part of what it takes up. -/
theorem token_eq (h : Way hay a p t q u) :
    u = t ∨ ∃ i j, u = some ⟨i, j⟩ ∧ p ≤ i ∧ i ≤ j ∧ j ≤ q := by
  have join : ∀ {p q r : Nat} {t u v : Option Span}, p ≤ q → q ≤ r →
      (u = t ∨ ∃ i j, u = some ⟨i, j⟩ ∧ p ≤ i ∧ i ≤ j ∧ j ≤ q) →
      (v = u ∨ ∃ i j, v = some ⟨i, j⟩ ∧ q ≤ i ∧ i ≤ j ∧ j ≤ r) →
      v = t ∨ ∃ i j, v = some ⟨i, j⟩ ∧ p ≤ i ∧ i ≤ j ∧ j ≤ r := by
    rintro p q r t u v hpq hqr hu (rfl | ⟨i, j, hv, hi, hij, hj⟩)
    · rcases hu with hu | ⟨i, j, hu, hi, hij, hj⟩
      · exact Or.inl hu
      · exact Or.inr ⟨i, j, hu, hi, hij, Nat.le_trans hj hqr⟩
    · exact Or.inr ⟨i, j, hv, Nat.le_trans hpq hi, hij, hj⟩
  induction h with
  | empty | char | look | stretch => exact Or.inl rfl
  | seq ha hb iha ihb => exact join ha.le hb.le iha ihb
  | left _ ih | right _ ih | once _ ih | last _ ih => exact ih
  | token ha => exact Or.inr ⟨_, _, rfl, Nat.le_refl _, ha.le, Nat.le_refl _⟩
  | more ha hm iha ihm => exact join ha.le hm.le iha ihm

end Way

/-! ### The way of a search -/

/-- A search that came to a match has gone a way of the pattern, and on with the rest from there. -/
def Went (hay : Array Char) (a : Pattern) (k : Rest) (p : Nat) (t : Option Span) (h : Hit) : Prop :=
  ∃ q u tried, Way hay a p t q u ∧ (k q u tried).1 = some h

variable {k : Rest} {h : Hit}

theorem backDown_eq_some {stop : Nat} {tried : Tried}
    (hb : (backDown k t stop p tried).1 = some h) :
    ∃ q tried, stop < q ∧ q ≤ p ∧ (k q t tried).1 = some h := by
  induction p generalizing tried with
  | zero => simp [backDown] at hb
  | succ p ih =>
      rw [backDown] at hb
      split at hb
      · simp at hb
      · rename_i hstop
        split at hb
        · obtain ⟨q, tried', hq, hqp, hk⟩ := ih hb
          exact ⟨q, tried', hq, Nat.le_succ_of_le hqp, hk⟩
        · exact ⟨p + 1, tried, by omega, Nat.le_refl _, hb⟩

theorem mem_of_lt_reach {s : CharSet} {id fuel i : Nat} {tried : Tried} (hi : p ≤ i)
    (hlt : i < (reach hay s id fuel p tried).1) : ∃ c, hay[i]? = some c ∧ s.mem c = true := by
  induction fuel generalizing p tried with
  | zero =>
      simp only [reach] at hlt
      omega
  | succ fuel ih =>
      rw [reach] at hlt
      split at hlt
      · omega
      · rename_i c hc
        split at hlt
        · rename_i hs
          rcases Nat.eq_or_lt_of_le hi with rfl | hpi
          · exact ⟨c, hc, (Bool.and_eq_true_iff.mp hs).1⟩
          · exact ih hpi hlt
        · omega

theorem creep_eq_some {s : CharSet} {greedy : Bool} {id fuel : Nat} {tried : Tried}
    (hc : (creep hay s id k t fuel p tried).1 = some h) :
    Went hay (.stretch greedy id s) k p t h := by
  induction fuel generalizing p tried with
  | zero => simp [creep] at hc
  | succ fuel ih =>
      rw [creep] at hc
      split at hc
      · simp at hc
      · rename_i c hp
        split at hc
        · rename_i hs
          have hmem : s.mem c = true := (Bool.and_eq_true_iff.mp hs).1
          have hfirst : ∀ i, p ≤ i → i < p + 1 → ∃ c, hay[i]? = some c ∧ s.mem c = true := by
            intro i hi hlt
            obtain rfl : i = p := by omega
            exact ⟨c, hp, hmem⟩
          split at hc
          · -- the rest did not fit after this character, so the stretch is longer
            obtain ⟨q, u, tried', hway, hk⟩ := ih hc
            cases hway with
            | stretch hpq hrest =>
                refine ⟨q, t, tried', .stretch (by omega) ?_, hk⟩
                intro i hi hlt
                rcases Nat.eq_or_lt_of_le hi with rfl | hpi
                · exact hfirst p (Nat.le_refl p) (Nat.lt_succ_self p)
                · exact hrest i hpi hlt
          · exact ⟨p + 1, t, _, .stretch (Nat.lt_succ_self p) hfirst, hc⟩
        · simp at hc

theorem rounds_eq_some {body : Rest → Rest} {greedy : Bool} {id fuel : Nat} {tried : Tried}
    (hbody : ∀ {k p t tried}, (body k p t tried).1 = some h → Went hay a k p t h)
    (hr : (rounds body greedy id fuel k p t tried).1 = some h) :
    Went hay (.many greedy id a) k p t h := by
  induction fuel generalizing p t tried with
  | zero => simp [rounds] at hr
  | succ fuel ih =>
      rw [rounds] at hr
      obtain ⟨q, u, tried', hround, hq⟩ := hbody hr
      have hlast : ∀ {tried}, (k q u tried).1 = some h → Went hay (.many greedy id a) k p t h :=
        fun hk => ⟨q, u, _, .last hround, hk⟩
      have hmore : ∀ {tried}, (rounds body greedy id fuel k q u tried).1 = some h →
          Went hay (.many greedy id a) k p t h := by
        intro tried hm
        obtain ⟨r, v, tried'', hrest, hk⟩ := ih hm
        exact ⟨r, v, tried'', .more hround hrest, hk⟩
      dsimp only at hq
      split at hq
      · simp at hq
      · split at hq
        · split at hq
          · exact hlast hq
          · exact hmore hq
        · split at hq
          · exact hmore hq
          · exact hlast hq

theorem went_of_run {tried : Tried} (hr : (a.run hay k p t tried).1 = some h) :
    Went hay a k p t h := by
  induction a generalizing k p t tried with
  | empty => exact ⟨p, t, tried, .empty, hr⟩
  | char s =>
      rw [run] at hr
      split at hr
      · simp at hr
      · rename_i c hc
        split at hr
        · exact ⟨p + 1, t, tried, .char hc ‹_›, hr⟩
        · simp at hr
  | look l =>
      rw [run] at hr
      split at hr
      · exact ⟨p, t, tried, .look ‹_›, hr⟩
      · simp at hr
  | seq a b iha ihb =>
      obtain ⟨q, u, tried, ha, hq⟩ := iha hr
      obtain ⟨r, v, tried, hb, hk⟩ := ihb hq
      exact ⟨r, v, tried, .seq ha hb, hk⟩
  | alt a b iha ihb =>
      rw [run] at hr
      split at hr
      · obtain ⟨q, u, tried, hb, hk⟩ := ihb hr
        exact ⟨q, u, tried, .right hb, hk⟩
      · obtain ⟨q, u, tried, ha, hk⟩ := iha hr
        exact ⟨q, u, tried, .left ha, hk⟩
  | token a ih =>
      obtain ⟨q, u, tried, ha, hk⟩ := ih hr
      exact ⟨q, some ⟨p, q⟩, tried, .token ha, hk⟩
  | once id a ih =>
      rw [run] at hr
      split at hr
      · simp at hr
      · obtain ⟨q, u, tried, ha, hk⟩ := ih hr
        exact ⟨q, u, tried, .once ha, hk⟩
  | many greedy id a ih => exact rounds_eq_some ih hr
  | stretch greedy id s =>
      rw [run] at hr
      split at hr
      · obtain ⟨q, tried', hpq, hqr, hk⟩ := backDown_eq_some hr
        refine ⟨q, t, tried', .stretch hpq ?_, hk⟩
        exact fun i hi hlt => mem_of_lt_reach hi (Nat.lt_of_lt_of_le hlt hqr)
      · exact creep_eq_some hr

/-! ### Matches -/

theorem matchAt_eq_some (hm : a.matchAt hay p = some h) :
    h.start = p ∧ Way hay a h.start none h.stop h.token? := by
  obtain ⟨q, u, tried, hway, hk⟩ := went_of_run hm
  obtain rfl := Option.some.inj hk
  exact ⟨rfl, hway⟩

theorem findWithin_eq_some {n : Nat} (hf : a.findWithin hay n p = some h) :
    p ≤ h.start ∧ h.start < p + n ∧ Way hay a h.start none h.stop h.token? := by
  induction n generalizing p with
  | zero => simp [findWithin] at hf
  | succ n ih =>
      rw [findWithin] at hf
      split at hf
      · rename_i h' hm
        obtain rfl := Option.some.inj hf
        obtain ⟨hstart, hway⟩ := matchAt_eq_some hm
        exact ⟨Nat.le_of_eq hstart.symm, by omega, hway⟩
      · obtain ⟨hp, hlt, hway⟩ := ih hf
        exact ⟨by omega, by omega, hway⟩

/-- A match that a search finds starts no earlier than the search, and lies inside the text. -/
theorem find_eq_some (hf : a.find hay p = some h) :
    p ≤ h.start ∧ h.stop ≤ hay.size ∧ Way hay a h.start none h.stop h.token? := by
  rw [find] at hf
  split at hf
  · obtain ⟨hp, hlt, hway⟩ := findWithin_eq_some hf
    exact ⟨hp, hway.stop_le (by omega), hway⟩
  · simp at hf

/-- The token of a match lies inside the match. -/
theorem Way.token_inside (hway : Way hay a h.start none h.stop h.token?) :
    h.start ≤ h.token.start ∧ h.token.start ≤ h.token.stop ∧ h.token.stop ≤ h.stop := by
  rcases hway.token_eq with hnone | ⟨i, j, hsome, hi, hij, hj⟩
  · simpa [Hit.token, hnone] using hway.le
  · simpa [Hit.token, hsome] using ⟨hi, hij, hj⟩

end Highlight.Pattern
