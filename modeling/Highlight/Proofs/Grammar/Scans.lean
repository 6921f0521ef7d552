import Highlight.Grammar.Scan
import Highlight.Proofs.Grammar.Checked
import Highlight.Proofs.Pattern.Ways

/-!
# What a scan emits

A scan of a piece of text adds tokens that stand in order, apart and inside the piece, however deep
it nests.  The reason is local: a rule's next token starts at or behind the place of the scan, since
it is kept only until the scan has passed its start, and what lies between the place and the token
is dealt with before the token.  So a tree's tokens always pass the check.
-/

namespace Highlight

/-! ### Rules and their next tokens -/

/-- The token is not empty, starts at `p` or later, and ends inside a text of that length. -/
def Found.Fits (p length : Nat) (f : Found) : Prop :=
  p ≤ f.start ∧ f.start < f.stop ∧ f.stop ≤ length

variable {hay : Array Char} {p : Nat}

theorem Pattern.fits_of_findTokenWithin {a : Pattern} {fuel : Nat} {f : Found}
    (h : a.findTokenWithin hay fuel p = some f) : f.Fits p hay.size := by
  induction fuel generalizing p with
  | zero => simp [findTokenWithin] at h
  | succ fuel ih =>
      rw [findTokenWithin] at h
      split at h
      · simp at h
      · split at h
        · simp at h
        · rename_i hit hfind
          obtain ⟨hp, hstop, hway⟩ := find_eq_some hfind
          obtain ⟨hstart, hle, hend⟩ := hway.token_inside
          split at h
          · rename_i hlt
            obtain rfl := Option.some.inj h
            exact ⟨Nat.le_trans hp hstart, hlt, Nat.le_trans hend hstop⟩
          · obtain ⟨hnext, hrest⟩ := ih h
            exact ⟨by omega, hrest⟩

theorem Pattern.fits_of_findToken {a : Pattern} {f : Found} (h : a.findToken hay p = some f) :
    f.Fits p hay.size :=
  fits_of_findTokenWithin h

/-- Whatever was found earlier fits the text. -/
def Cursor.Fits (length : Nat) (c : Cursor) : Prop := ∀ f, c = .found f → f.Fits 0 length

theorem Cursor.fits_advance {a : Pattern} {c : Cursor} {f : Found} (hc : c.Fits hay.size)
    (h : c.advance a hay p = .found f) : f.Fits p hay.size := by
  have hsearch {g : Found} (hg : a.findToken hay p = some g) (heq : Cursor.found g = .found f) :
      f.Fits p hay.size := by
    obtain rfl := Cursor.found.inj heq
    exact Pattern.fits_of_findToken hg
  cases c with
  | exhausted => simp [advance] at h
  | unsearched =>
      rw [advance] at h
      split at h
      · exact hsearch ‹_› h
      · cases h
  | found g =>
      rw [advance] at h
      split at h
      · rename_i hp
        obtain rfl := Cursor.found.inj h
        exact ⟨hp, (hc g rfl).2⟩
      · split at h
        · exact hsearch ‹_› h
        · cases h

/-- The rules of a tree with what they know of a text of that length. -/
def TrackedFit (length : Nat) (rs : List Tracked) : Prop := ∀ r ∈ rs, r.2.Fits length

theorem fits_of_mem_advanceAll {rs : List Tracked} (hrs : TrackedFit hay.size rs) {r : Tracked}
    (hr : r ∈ advanceAll hay p rs) {f : Found} (hf : r.2 = .found f) : f.Fits p hay.size := by
  obtain ⟨r', hr', rfl⟩ := List.mem_map.mp hr
  exact Cursor.fits_advance (hrs r' hr') hf

theorem trackedFit_advanceAll {rs : List Tracked} (hrs : TrackedFit hay.size rs) (p : Nat) :
    TrackedFit hay.size (advanceAll hay p rs) := by
  intro r hr f hf
  exact ⟨Nat.zero_le _, (fits_of_mem_advanceAll hrs hr hf).2⟩

theorem mem_of_earliest {rs : List Tracked} {r : Rule Pattern} {f : Found}
    (h : earliest rs = some (r, f)) : (r, .found f) ∈ rs := by
  induction rs generalizing r f with
  | nil => simp [earliest] at h
  | cons s rs ih =>
      obtain ⟨rule, c⟩ := s
      cases c with
      | unsearched | exhausted =>
          exact List.mem_cons_of_mem _ (ih (by simpa only [earliest, Cursor.found?] using h))
      | found g =>
          have hself :
              some (rule, g) = some (r, f) → (r, Cursor.found f) ∈ (rule, .found g) :: rs := by
            rintro ⟨⟩
            exact List.mem_cons_self
          cases hbest : earliest rs with
          | none => exact hself (by simpa [earliest, Cursor.found?, hbest] using h)
          | some best =>
              obtain ⟨s, f'⟩ := best
              simp only [earliest, Cursor.found?, hbest] at h
              split at h
              · obtain ⟨rfl, rfl⟩ := Prod.mk.inj (Option.some.inj h)
                exact List.mem_cons_of_mem _ (ih hbest)
              · exact hself h

namespace RuleTree

/-! ### What is added -/

/-- The tokens stand in order and apart between two places, and each has a label, but not more than
so many. -/
structure Laid (start stop most : Nat) (ts : List Token) : Prop where
  inside : ∀ t ∈ ts, start ≤ t.start ∧ t.start < t.stop ∧ t.stop ≤ stop
  apart : ts.Pairwise fun t u => t.stop ≤ u.start
  labels : ∀ t ∈ ts, 0 < t.labels.length ∧ t.labels.length ≤ most

theorem laid_nil (start stop most : Nat) : Laid start stop most [] :=
  ⟨by simp, .nil, by simp⟩

theorem Laid.append {start mid stop most : Nat} {ts us : List Token} (h : Laid start mid most ts)
    (h' : Laid mid stop most us) (hstart : start ≤ mid) (hstop : mid ≤ stop) :
    Laid start stop most (ts ++ us) where
  inside := by
    intro t ht
    rcases List.mem_append.mp ht with ht | ht
    · obtain ⟨hfirst, hlt, hlast⟩ := h.inside t ht
      exact ⟨hfirst, hlt, Nat.le_trans hlast hstop⟩
    · obtain ⟨hfirst, hlt, hlast⟩ := h'.inside t ht
      exact ⟨Nat.le_trans hstart hfirst, hlt, hlast⟩
  apart := by
    rw [List.pairwise_append]
    refine ⟨h.apart, h'.apart, ?_⟩
    intro t ht u hu
    exact Nat.le_trans (h.inside t ht).2.2 (h'.inside u hu).1
  labels := by
    intro t ht
    rcases List.mem_append.mp ht with ht | ht
    · exact h.labels t ht
    · exact h'.labels t ht

/-- What comes of the tokens so far when a stretch of the text is dealt with: tokens laid out in the
stretch are added, as many as there is room for, or a limit is exceeded. -/
inductive Emits (limits : Limits) (out : Array Token) (start stop : Nat) : Output → Prop
  | added (out' : Array Token) (ts : List Token) (hout : out'.toList = out.toList ++ ts)
      (hlaid : Laid start stop (limits.maxDepth + 1) ts)
      (hsize : out.size ≤ limits.maxTokens → out'.size ≤ limits.maxTokens) :
      Emits limits out start stop (.ok out')
  | tooMany : Emits limits out start stop (.error (.tooManyTokens limits.maxTokens))
  | tooDeep : Emits limits out start stop (.error (.nestingTooDeep limits.maxDepth))

variable {limits : Limits} {out out' : Array Token} {start mid stop : Nat} {res : Output}

theorem emits_nothing (limits : Limits) (out : Array Token) (start stop : Nat) :
    Emits limits out start stop (.ok out) :=
  .added out [] (by simp) (laid_nil _ _ _) id

/-- A stretch is dealt with by dealing with its front and then with its back. -/
theorem Emits.trans (h : Emits limits out start mid (.ok out'))
    (h' : Emits limits out' mid stop res) (hstart : start ≤ mid) (hstop : mid ≤ stop) :
    Emits limits out start stop res := by
  cases h with
  | added _ ts hout hlaid hsize =>
      cases h' with
      | added out'' us hout' hlaid' hsize' =>
          refine .added out'' (ts ++ us) ?_ (hlaid.append hlaid' hstart hstop) (hsize' ∘ hsize)
          rw [hout', hout, List.append_assoc]
      | tooMany => exact .tooMany
      | tooDeep => exact .tooDeep

theorem Emits.of_error {e : TokenizeError} {start' stop' : Nat}
    (h : Emits limits out start stop (.error e)) : Emits limits out start' stop' (.error e) := by
  cases h with
  | tooMany => exact .tooMany
  | tooDeep => exact .tooDeep

theorem emits_emit (out : Array Token) {labels : List String} (hlt : start < stop)
    (hpos : 0 < labels.length) (hle : labels.length ≤ limits.maxDepth + 1) :
    Emits limits out start stop (emit limits ⟨start, stop, labels⟩ out) := by
  unfold emit
  split
  · exact .tooMany
  · rename_i hroom
    refine .added _ [⟨start, stop, labels⟩] (by simp) ⟨?_, List.pairwise_singleton _ _, ?_⟩ ?_
    · simpa using hlt
    · simpa using ⟨hpos, hle⟩
    · intro _
      rw [Array.size_push]
      omega

/-! ### Scans -/

/-- Nested scans deal with the text they are given, as long as the labels around it are no more than
the levels that have been entered. -/
def Sane (limits : Limits) (levels : Nat) (descend : Descend) : Prop :=
  ∀ tree hay base labels out, labels.length + levels ≤ limits.maxDepth + 1 →
    Emits limits out base (base + hay.size) (descend tree hay base labels out)

section

variable {root tree : RuleGrammar} {levels base : Nat} {descend : Descend} {labels : List String}
  {q : Nat}

theorem Sane.extract (h : Sane limits levels descend) (tree : RuleGrammar) (base : Nat)
    (out : Array Token) (hlabels : labels.length + levels ≤ limits.maxDepth + 1) (hpq : p ≤ q)
    (hq : q ≤ hay.size) :
    Emits limits out (base + p) (base + q)
      (descend tree (hay.extract p q) (base + p) labels out) := by
  have hsize : base + p + (hay.extract p q).size = base + q := by
    rw [Array.size_extract]
    omega
  have hdescend := h tree (hay.extract p q) (base + p) labels out hlabels
  rwa [hsize] at hdescend

theorem Sane.gap (h : Sane limits levels descend) (root tree : RuleGrammar) (base : Nat)
    (out : Array Token) (hlabels : labels.length + levels ≤ limits.maxDepth) (hpq : p ≤ q)
    (hq : q ≤ hay.size) :
    Emits limits out (base + p) (base + q)
      (gap root limits descend tree hay base labels p q out) := by
  unfold RuleTree.gap
  split
  · exact emits_nothing _ _ _ _
  · split
    · exact h.extract root base out (by omega) hpq hq
    · split
      · exact emits_nothing _ _ _ _
      · rename_i hlt _ hlabelled
        refine emits_emit out (by omega) ?_ (by omega)
        rw [List.length_pos_iff]
        simpa using hlabelled

theorem Sane.take (h : Sane limits levels descend) (root : RuleGrammar) (base : Nat)
    (out : Array Token) (hlabels : labels.length + levels ≤ limits.maxDepth) (r : Rule Pattern)
    {f : Found} (hf : f.Fits p hay.size) :
    Emits limits out (base + f.start) (base + f.stop)
      (take root limits descend hay base labels r f out) := by
  obtain ⟨-, hlt, hstop⟩ := hf
  have hmore : (labels ++ [r.label]).length = labels.length + 1 := by simp
  unfold RuleTree.take
  split
  · exact emits_emit out (by omega) (by omega) (by omega)
  · exact h.extract _ base out (by omega) (Nat.le_of_lt hlt) hstop
  · exact h.extract root base out (by omega) (Nat.le_of_lt hlt) hstop

theorem Sane.scanFrom (h : Sane limits levels descend) (root tree : RuleGrammar) (base : Nat)
    (hlabels : labels.length + levels ≤ limits.maxDepth) {fuel : Nat} {rs : List Tracked}
    (hrs : TrackedFit hay.size rs) (hp : p ≤ hay.size) (out : Array Token) :
    Emits limits out (base + p) (base + hay.size)
      (scanFrom root limits descend tree hay base labels fuel rs p out) := by
  induction fuel generalizing rs p out with
  | zero => exact h.gap root tree base out hlabels hp (Nat.le_refl _)
  | succ fuel ih =>
      rw [RuleTree.scanFrom]
      split
      · exact h.gap root tree base out hlabels hp (Nat.le_refl _)
      · rename_i r f hbest
        have hf : f.Fits p hay.size := fits_of_mem_advanceAll hrs (mem_of_earliest hbest) rfl
        obtain ⟨hpf, hlt, hstop⟩ := hf
        have hbefore : f.start ≤ hay.size := by omega
        have hgap := h.gap root tree base out hlabels hpf hbefore
        split
        · rename_i e hres
          exact (hres ▸ hgap).of_error
        · rename_i out₁ hres
          have htake := h.take root base out₁ hlabels r ⟨hpf, hlt, hstop⟩
          have hfront := (hres ▸ hgap).trans htake (by omega) (by omega)
          split
          · rename_i e hres'
            exact (hres' ▸ hfront).of_error
          · rename_i out₂ hres'
            have hrest := ih (trackedFit_advanceAll hrs p) hstop out₂
            exact (hres' ▸ hfront).trans hrest (by omega) (by omega)

theorem sane_scan (root : RuleGrammar) (limits : Limits) (levels : Nat) :
    Sane limits levels (scan root limits levels) := by
  induction levels with
  | zero =>
      intro tree hay base labels out _
      exact .tooDeep
  | succ levels ih =>
      intro tree hay base labels out hlabels
      have hrs : TrackedFit hay.size (tree.rules.map fun r => (r, .unsearched)) := by
        intro r hr f hf
        obtain ⟨r', -, rfl⟩ := List.mem_map.mp hr
        simp at hf
      exact ih.scanFrom root tree base (by omega) hrs (Nat.zero_le _) out

end

theorem tokenize_cases (root : RuleGrammar) (text : String) (limits : Limits) :
    root.tokenize text limits = .error (.tooManyTokens limits.maxTokens) ∨
      root.tokenize text limits = .error (.nestingTooDeep limits.maxDepth) ∨
      ∃ ts, root.tokenize text limits = .ok ts ∧ Laid 0 text.length (limits.maxDepth + 1) ts ∧
        ts.length ≤ limits.maxTokens := by
  have hemits :=
    sane_scan root limits (limits.maxDepth + 1) root text.toList.toArray 0 [] #[] (by simp)
  have hlength : 0 + text.toList.toArray.size = text.length := by
    rw [Nat.zero_add, List.size_toArray, String.length_toList]
  rw [hlength] at hemits
  unfold tokenize
  generalize scan root limits (limits.maxDepth + 1) root text.toList.toArray 0 [] #[] =
    res at hemits ⊢
  cases hemits with
  | added out ts hout hlaid hsize =>
      obtain rfl : out.toList = ts := by simpa using hout
      exact Or.inr (Or.inr ⟨out.toList, rfl, hlaid, by simpa using hsize⟩)
  | tooMany => exact Or.inl rfl
  | tooDeep => exact Or.inr (Or.inl rfl)

/-- The tokens of a rule grammar are not empty, lie inside the text, in order and apart, have
between one label and one more than the nesting depth allows, and are no more than allowed.  So they
pass the check, which changes nothing about the grammar's answer, and a grammar fails only when a
limit is exceeded. -/
theorem tokens_in_order_and_checked (root : RuleGrammar) (text : String) (limits : Limits) :
    (∀ tokens, root.tokenize text limits = .ok tokens →
      (∀ t ∈ tokens, t.Inside text.length ∧ 0 < t.labels.length ∧
        t.labels.length ≤ limits.maxDepth + 1) ∧
      tokens.Pairwise (fun t u => t.stop ≤ u.start) ∧ tokens.length ≤ limits.maxTokens) ∧
    root.toGrammar.check text limits = root.tokenize text limits ∧
    ∀ e, root.toGrammar.check text limits = .error e →
      e = .tooManyTokens limits.maxTokens ∨ e = .nestingTooDeep limits.maxDepth := by
  rcases root.tokenize_cases text limits with hmany | hdeep | ⟨ts, hts, hlaid, hcount⟩
  · have hcheck := Grammar.check_of_error (g := root.toGrammar) hmany
    rw [hcheck, hmany]
    exact ⟨by simp, rfl, by rintro e ⟨⟩; exact Or.inl rfl⟩
  · have hcheck := Grammar.check_of_error (g := root.toGrammar) hdeep
    rw [hcheck, hdeep]
    exact ⟨by simp, rfl, by rintro e ⟨⟩; exact Or.inr rfl⟩
  · have hinside : ∀ t ∈ ts, t.Inside text.length := fun t ht => (hlaid.inside t ht).2
    have hcheck := Grammar.check_of_ok (g := root.toGrammar) hts hcount hinside hlaid.apart
    rw [hcheck, hts]
    refine ⟨?_, rfl, by simp⟩
    rintro tokens ⟨⟩
    exact ⟨fun t ht => ⟨hinside t ht, hlaid.labels t ht⟩, hlaid.apart, hcount⟩

end RuleTree

end Highlight
