import Highlight.Proofs.Grammar.Cursors
import Highlight.Proofs.Pattern.Brackets

/-!
# How deep a scan nests

A scan goes too deep only along a chain of scans, each started by the one before it.  `copes` looks
at a tree and finds a bound on such chains: nesting ends where a rule's matches are single tokens,
and where a rule asks for characters that its text lacks.  A root that comes back inside an
interpolation is met with a text without braces, so no interpolation starts in there.
-/

namespace Highlight.RuleTree

variable {root tree : RuleGrammar} {limits : Limits} {s : Stretch} {hay : Array Char} {p q n : Nat}

/-- No chain of so many scans, each started by the one before it, starts with the scan of the
stretch. -/
def Shallow (root : RuleGrammar) : Nat → Stretch → Prop
  | 0, _ => False
  | n + 1, s => ∀ t, Enters root s t → Shallow root n t

theorem Shallow.scan_ne_deep {levels : Nat} (h : Shallow root n s) (hn : n ≤ levels)
    (out : Array Token) (limit : Nat) :
    s.scan root limits levels out ≠ .error (.nestingTooDeep limit) := by
  induction n generalizing s levels out with
  | zero => exact h.elim
  | succ n ih =>
      obtain ⟨levels, rfl⟩ : ∃ m, levels = m + 1 := ⟨levels - 1, by omega⟩
      intro hdeep
      obtain ⟨t, out₁, ht, hdeep'⟩ := exists_enters_of_deep hdeep
      exact ih (h t ht) (by omega) out₁ hdeep'

theorem Shallow.tokenize_ne_deep {text : String} (h : Shallow root n (whole root text))
    (hn : n ≤ limits.maxDepth + 1) (limit : Nat) :
    root.tokenize text limits ≠ .error (.nestingTooDeep limit) := by
  have hscan : (whole root text).scan root limits (limits.maxDepth + 1) #[] ≠
      .error (.nestingTooDeep limit) := h.scan_ne_deep hn #[] limit
  unfold tokenize
  split
  · rename_i e he
    rintro ⟨⟩
    exact hscan he
  · simp

/-! ### Interpolations -/

/-- The only tokens of the tree are the edges of a bracket with that opening. -/
def HasEdges (opening : List Char) (tree : RuleGrammar) : Prop :=
  ∃ label, tree.rules = [.mk label (.edges opening) .token]

section

variable {opening : List Char} {r : Rule Pattern} {f : Found}

theorem HasEdges.takes (htree : HasEdges opening tree) (h : Takes tree hay p r f) :
    (Pattern.edges opening).findToken hay p = some f ∧ r.inside = .token := by
  obtain ⟨label, hrules⟩ := htree
  obtain rfl : r = .mk label (.edges opening) .token := by simpa [hrules] using h.mem_rules
  exact ⟨h.findToken_eq (Pattern.hasToken_edges opening), rfl⟩

/-- In the text of a bracket, the scan is at the start or has got past the opening. -/
theorem HasEdges.past_opening (htree : HasEdges opening tree) (h : Bracketed opening hay)
    (hopening : opening ≠ []) {rs : List Tracked} (hreach : Reaches tree hay rs p) :
    p = 0 ∨ opening.length ≤ p := by
  induction hreach with
  | start => exact Or.inl rfl
  | @next rs p r f hreach hbest ih =>
      have htakes : Takes tree hay p r f := ⟨rs, hreach, hbest⟩
      rcases ih with rfl | hpast
      · have hfound := (htree.takes htakes).1
        rw [Pattern.findToken_edges_zero h hopening] at hfound
        obtain rfl := Option.some.inj hfound
        exact Or.inr (Nat.le_refl _)
      · obtain ⟨hp, hlt, -⟩ := htakes.fits
        exact Or.inr (by omega)

/-- What the scan skips in the text of a bracket lies between the edges. -/
theorem HasEdges.between (htree : HasEdges opening tree) (h : Bracketed opening hay)
    (hopening : opening ≠ []) (hskips : Skips tree hay p q) (hpq : p < q) :
    opening.length ≤ p ∧ q < hay.size := by
  cases hskips with
  | @before _ r f htakes =>
      obtain ⟨hp, hlt, hstop⟩ := htakes.fits
      have hfound := (htree.takes htakes).1
      obtain ⟨rs, hreach, hbest⟩ := htakes
      rcases htree.past_opening h hopening hreach with rfl | hpast
      · rw [Pattern.findToken_edges_zero h hopening] at hfound
        obtain rfl := Option.some.inj hfound
        exact absurd hpq (Nat.lt_irrefl 0)
      · exact ⟨hpast, by omega⟩
  | last hreach hnone =>
      obtain ⟨label, hrules⟩ := htree
      have hmem : Rule.mk label (.edges opening) .token ∈ tree.rules := by simp [hrules]
      have hnothing := hreach.findToken_eq_none hnone hmem
      exact absurd hnothing (Pattern.findToken_edges_ne_none h hopening hpq)

/-- The scans that an interpolation starts are scans by the root of a text without braces. -/
theorem HasEdges.enters (htree : HasEdges opening s.tree) (h : Bracketed opening s.hay)
    (hopening : opening ≠ []) {t : Stretch} (ht : Enters root s t) :
    t.tree = root ∧ Lacks ['{', '}'] t.hay := by
  cases ht with
  | nested htakes hinside => simp [(htree.takes htakes).2] at hinside
  | again htakes hinside => simp [(htree.takes htakes).2] at hinside
  | @rest p q hskips hpq hrest =>
      obtain ⟨hp, hq⟩ := htree.between h hopening hskips hpq
      refine ⟨rfl, fun i c hc => ?_⟩
      rw [Stretch.part, Array.getElem?_extract] at hc
      split at hc
      · exact h.inner (p + i) c (by omega) (by omega) hc
      · simp at hc

end

/-! ### A bound for a tree -/

/-- What the interpolations of the built-in grammars start with. -/
def openings : List (List Char) := [['{'], ['#', '{'], ['$', '{']]

/-- Whether a rule with that pattern and that tree inside is one for interpolations. -/
def isInterpolation (pattern : Pattern) (inner : RuleGrammar) : Bool :=
  openings.any fun opening => pattern == .bracket opening &&
    match inner.rules with
    | [.mk _ edges .token] => edges == .edges opening
    | _ => false

/-- Whether less than so many scans follow one another, each started by the one before it, from the
scan of a text without the given characters on. -/
def copes (root : RuleGrammar) : Nat → List Char → RuleGrammar → Bool
  | 0, _, _ => false
  | n + 1, absent, tree =>
      !tree.restToRoot && tree.rules.all fun r =>
        match r.inside with
        | .token => true
        | .root => copes root n absent root
        | .nested inner =>
            copes root n absent inner || r.pattern.asks absent ||
              match n with
              | 0 => false
              | m + 1 => isInterpolation r.pattern inner && copes root m ['{', '}'] root

theorem exists_of_isInterpolation {pattern : Pattern} {inner : RuleGrammar}
    (h : isInterpolation pattern inner = true) :
    ∃ opening, opening ≠ [] ∧ pattern = .bracket opening ∧ HasEdges opening inner := by
  obtain ⟨opening, hmem, h⟩ := List.any_eq_true.mp h
  have hopening : ∀ opening ∈ openings, opening ≠ [] := by decide
  simp only [Bool.and_eq_true, beq_iff_eq] at h
  obtain ⟨hpattern, hrules⟩ := h
  refine ⟨opening, hopening opening hmem, hpattern, ?_⟩
  split at hrules
  · rename_i label edges hinner
    obtain rfl : edges = .edges opening := by simpa using hrules
    exact ⟨label, hinner⟩
  · simp at hrules

theorem Takes.bracketed {r : Rule Pattern} {f : Found} {opening : List Char}
    (h : Takes tree hay p r f) (hpattern : r.pattern = .bracket opening) :
    Bracketed opening (hay.extract f.start f.stop) := by
  obtain ⟨q, hfound⟩ := h.exists_findToken
  rw [hpattern] at hfound
  have hway := Pattern.way_of_findToken (Pattern.hasToken_bracket opening) hfound
  exact hway.bracketed h.fits.2.2

theorem shallow_of_copes {absent : List Char} (h : copes root n absent s.tree = true)
    (hlacks : Lacks absent s.hay) : Shallow root n s := by
  induction n using Nat.strongRecOn generalizing absent s with
  | ind n ih =>
      cases n with
      | zero => simp [copes] at h
      | succ n =>
          rw [copes, Bool.and_eq_true, List.all_eq_true] at h
          obtain ⟨hrest, hrules⟩ := h
          intro t ht
          cases ht with
          | rest _ _ hroot => simp [hroot] at hrest
          | again htakes hinside =>
              have hrule := hrules _ htakes.mem_rules
              rw [hinside] at hrule
              exact ih n (Nat.lt_succ_self n) hrule (hlacks.extract _ _)
          | @nested p r f inner htakes hinside =>
              have hrule := hrules _ htakes.mem_rules
              rw [hinside] at hrule
              dsimp only at hrule
              simp only [Bool.or_eq_true] at hrule
              rcases hrule with (hinner | hasks) | hbracket
              · exact ih n (Nat.lt_succ_self n) hinner (hlacks.extract _ _)
              · obtain ⟨q, hfound⟩ := htakes.exists_findToken
                simp [Pattern.findToken_eq_none_of_asks hasks hlacks] at hfound
              · cases n with
                | zero => simp at hbracket
                | succ m =>
                    -- The scan by the edges and those it starts are dealt with together, since
                    -- only the match of a bracket says what text the root meets again.
                    obtain ⟨hinterpolation, hroot⟩ := Bool.and_eq_true_iff.mp hbracket
                    obtain ⟨opening, hopening, hpattern, hedges⟩ :=
                      exists_of_isInterpolation hinterpolation
                    intro u hu
                    obtain ⟨rfl, hbraces⟩ := hedges.enters (htakes.bracketed hpattern) hopening hu
                    exact ih m (by omega) hroot hbraces

theorem tokenize_ne_deep_of_copes (h : copes root n [] root = true) (hn : n ≤ limits.maxDepth + 1)
    (text : String) (limit : Nat) : root.tokenize text limits ≠ .error (.nestingTooDeep limit) := by
  have hshallow : Shallow root n (whole root text) := shallow_of_copes h (lacks_nil _)
  exact hshallow.tokenize_ne_deep hn limit

end Highlight.RuleTree
