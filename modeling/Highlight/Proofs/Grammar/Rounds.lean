import Highlight.Proofs.Grammar.Scans

/-!
# The rounds of a scan

A scan of a text by a tree goes in rounds: each brings the cursors up to its place, leaves the text
in front of the earliest token to the gap, takes the token, and goes on behind it.  `Reaches` says
to which places with which cursors a scan comes, `Takes` which matches it takes and `Skips` what it
leaves between them; none of this hangs on the limits.  `Enters` says which further scans a scan
starts, and `Visits` which scans come of one in the end.
-/

namespace Highlight

namespace RuleTree

/-- A scan of the text by the tree comes to the place with these cursors. -/
inductive Reaches (tree : RuleGrammar) (hay : Array Char) : List Tracked → Nat → Prop
  | start : Reaches tree hay (tree.rules.map fun r => (r, .unsearched)) 0
  | next {rs : List Tracked} {p : Nat} {r : Rule Pattern} {f : Found} (h : Reaches tree hay rs p)
      (hbest : earliest (advanceAll hay p rs) = some (r, f)) :
      Reaches tree hay (advanceAll hay p rs) f.stop

/-- At the place `p` the scan takes a match of a rule. -/
def Takes (tree : RuleGrammar) (hay : Array Char) (p : Nat) (r : Rule Pattern) (f : Found) : Prop :=
  ∃ rs, Reaches tree hay rs p ∧ earliest (advanceAll hay p rs) = some (r, f)

/-- The scan leaves the text from `p` to `q` between two matches or behind the last one. -/
inductive Skips (tree : RuleGrammar) (hay : Array Char) : Nat → Nat → Prop
  | before {p : Nat} {r : Rule Pattern} {f : Found} (h : Takes tree hay p r f) :
      Skips tree hay p f.start
  | last {rs : List Tracked} {p : Nat} (h : Reaches tree hay rs p)
      (hnone : earliest (advanceAll hay p rs) = none) : Skips tree hay p hay.size

variable {root tree : RuleGrammar} {hay : Array Char} {rs : List Tracked} {p q : Nat}
  {r : Rule Pattern} {f : Found}

theorem map_fst_advanceAll (hay : Array Char) (p : Nat) (rs : List Tracked) :
    (advanceAll hay p rs).map Prod.fst = rs.map Prod.fst := by
  simp [advanceAll, Function.comp_def]

theorem Reaches.rules (h : Reaches tree hay rs p) : rs.map Prod.fst = tree.rules := by
  induction h with
  | start => simp [Function.comp_def]
  | next _ _ ih => rw [map_fst_advanceAll, ih]

theorem Reaches.fit (h : Reaches tree hay rs p) : TrackedFit hay.size rs ∧ p ≤ hay.size := by
  induction h with
  | start =>
      refine ⟨?_, Nat.zero_le _⟩
      intro r hr f hf
      obtain ⟨r', -, rfl⟩ := List.mem_map.mp hr
      simp at hf
  | next _ hbest ih =>
      obtain ⟨-, -, hstop⟩ := fits_of_mem_advanceAll ih.1 (mem_of_earliest hbest) rfl
      exact ⟨trackedFit_advanceAll ih.1 _, hstop⟩

theorem Takes.fits (h : Takes tree hay p r f) : f.Fits p hay.size := by
  obtain ⟨rs, hrs, hbest⟩ := h
  exact fits_of_mem_advanceAll hrs.fit.1 (mem_of_earliest hbest) rfl

theorem Takes.mem_rules (h : Takes tree hay p r f) : r ∈ tree.rules := by
  obtain ⟨rs, hrs, hbest⟩ := h
  rw [← hrs.rules, ← map_fst_advanceAll hay p]
  exact List.mem_map_of_mem (mem_of_earliest hbest)

/-! ### Scans that a scan starts -/

/-- A piece of text under a scan: by a tree, from a place on, under labels. -/
structure Stretch where
  tree : RuleGrammar
  hay : Array Char
  base : Nat
  labels : List String

/-- The scan of a whole text by the root. -/
def whole (root : RuleGrammar) (text : String) : Stretch := ⟨root, text.toList.toArray, 0, []⟩

namespace Stretch

/-- The part of the stretch between two of its places, for a scan by a tree. -/
def part (s : Stretch) (tree : RuleGrammar) (p q : Nat) (labels : List String) : Stretch :=
  ⟨tree, s.hay.extract p q, s.base + p, labels⟩

/-- The scan of the stretch, when `levels` levels of nesting are left. -/
def scan (s : Stretch) (root : RuleGrammar) (limits : Limits) (levels : Nat) (out : Array Token) :
    Output :=
  RuleTree.scan root limits levels s.tree s.hay s.base s.labels out

end Stretch

/-- A scan starts another one, of a match or of what lies between matches. -/
inductive Enters (root : RuleGrammar) (s : Stretch) : Stretch → Prop
  | nested {p : Nat} {r : Rule Pattern} {f : Found} {tree : RuleGrammar}
      (h : Takes s.tree s.hay p r f) (hinside : r.inside = .nested tree) :
      Enters root s (s.part tree f.start f.stop (s.labels ++ [r.label]))
  | again {p : Nat} {r : Rule Pattern} {f : Found} (h : Takes s.tree s.hay p r f)
      (hinside : r.inside = .root) :
      Enters root s (s.part root f.start f.stop (s.labels ++ [r.label]))
  | rest {p q : Nat} (h : Skips s.tree s.hay p q) (hpq : p < q) (hrest : s.tree.restToRoot = true) :
      Enters root s (s.part root p q s.labels)

/-- A scan comes of another one. -/
inductive Visits (root : RuleGrammar) (s : Stretch) : Stretch → Prop
  | here : Visits root s s
  | further {t u : Stretch} (h : Visits root s t) (ht : Enters root t u) : Visits root s u

/-! ### One round -/

section

variable {limits : Limits} {descend : Descend} {base fuel : Nat} {labels : List String}
  {out out' : Array Token} {e : TokenizeError}

theorem scanFrom_eq_gap (hnone : earliest (advanceAll hay p rs) = none) :
    scanFrom root limits descend tree hay base labels (fuel + 1) rs p out =
      gap root limits descend tree hay base labels p hay.size out := by
  rw [scanFrom, hnone]

/-- A round with a token: first the gap in front of it, then the match, then the further rounds. -/
theorem scanFrom_eq_bind (hbest : earliest (advanceAll hay p rs) = some (r, f)) :
    scanFrom root limits descend tree hay base labels (fuel + 1) rs p out =
      (gap root limits descend tree hay base labels p f.start out).bind fun out =>
        (take root limits descend hay base labels r f out).bind
          (scanFrom root limits descend tree hay base labels fuel
            (advanceAll hay p rs) f.stop) := by
  rw [scanFrom, hbest]
  dsimp only
  cases gap root limits descend tree hay base labels p f.start out with
  | error e => rfl
  | ok out₁ =>
      simp only [Except.bind]
      cases take root limits descend hay base labels r f out₁ with
      | error e => rfl
      | ok out₂ => rfl

theorem scanFrom_eq_ok (hbest : earliest (advanceAll hay p rs) = some (r, f))
    (h : scanFrom root limits descend tree hay base labels (fuel + 1) rs p out = .ok out') :
    ∃ out₁ out₂, gap root limits descend tree hay base labels p f.start out = .ok out₁ ∧
      take root limits descend hay base labels r f out₁ = .ok out₂ ∧
      scanFrom root limits descend tree hay base labels fuel (advanceAll hay p rs) f.stop out₂ =
        .ok out' := by
  rw [scanFrom_eq_bind hbest] at h
  cases hgap : gap root limits descend tree hay base labels p f.start out with
  | error e => simp [hgap, Except.bind] at h
  | ok out₁ =>
      cases htake : take root limits descend hay base labels r f out₁ with
      | error e => simp [hgap, htake, Except.bind] at h
      | ok out₂ => exact ⟨out₁, out₂, rfl, htake, by simpa [hgap, htake, Except.bind] using h⟩

/-- An error of a scan is the error of what it skips or of a match that it takes. -/
theorem scanFrom_eq_error (hreach : Reaches tree hay rs p) (hfuel : hay.size < fuel + p)
    (h : scanFrom root limits descend tree hay base labels fuel rs p out = .error e) :
    (∃ p q out₁, Skips tree hay p q ∧
      gap root limits descend tree hay base labels p q out₁ = .error e) ∨
    ∃ p r f out₁, Takes tree hay p r f ∧
      take root limits descend hay base labels r f out₁ = .error e := by
  induction fuel generalizing rs p out with
  | zero =>
      have hp := hreach.fit.2
      omega
  | succ fuel ih =>
      cases hbest : earliest (advanceAll hay p rs) with
      | none =>
          rw [scanFrom_eq_gap hbest] at h
          exact Or.inl ⟨p, hay.size, out, .last hreach hbest, h⟩
      | some best =>
          obtain ⟨r, f⟩ := best
          have htakes : Takes tree hay p r f := ⟨rs, hreach, hbest⟩
          rw [scanFrom_eq_bind hbest] at h
          cases hgap : gap root limits descend tree hay base labels p f.start out with
          | error e' =>
              obtain rfl : e' = e := by simpa [hgap, Except.bind] using h
              exact Or.inl ⟨p, f.start, out, .before htakes, hgap⟩
          | ok out₁ =>
              cases htake : take root limits descend hay base labels r f out₁ with
              | error e' =>
                  obtain rfl : e' = e := by simpa [hgap, htake, Except.bind] using h
                  exact Or.inr ⟨p, r, f, out₁, htakes, htake⟩
              | ok out₂ =>
                  obtain ⟨hp, hlt, -⟩ := htakes.fits
                  exact ih (hreach.next hbest) (by omega)
                    (by simpa [hgap, htake, Except.bind] using h)

end

theorem emit_ne_deep (limits : Limits) (t : Token) (out : Array Token) (n : Nat) :
    emit limits t out ≠ .error (.nestingTooDeep n) := by
  unfold emit
  split <;> simp

theorem exists_enters_of_deep {limits : Limits} {levels n : Nat} {s : Stretch} {out : Array Token}
    (h : s.scan root limits (levels + 1) out = .error (.nestingTooDeep n)) :
    ∃ t out₁, Enters root s t ∧ t.scan root limits levels out₁ = .error (.nestingTooDeep n) := by
  rcases scanFrom_eq_error .start (Nat.lt_succ_self _) h with
    ⟨p, q, out₁, hskips, hgap⟩ | ⟨p, r, f, out₁, htakes, htake⟩
  · unfold gap at hgap
    split at hgap
    · simp at hgap
    · rename_i hpq
      split at hgap
      · rename_i hrest
        exact ⟨_, out₁, .rest hskips (by omega) hrest, hgap⟩
      · split at hgap
        · simp at hgap
        · exact absurd hgap (emit_ne_deep _ _ _ _)
  · unfold take at htake
    dsimp only at htake
    split at htake
    · exact absurd htake (emit_ne_deep _ _ _ _)
    · rename_i tree hinside
      exact ⟨_, out₁, .nested htakes hinside, htake⟩
    · rename_i hinside
      exact ⟨_, out₁, .again htakes hinside, htake⟩

end RuleTree

end Highlight
