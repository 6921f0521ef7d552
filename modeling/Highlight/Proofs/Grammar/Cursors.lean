import Highlight.Proofs.Grammar.Rounds
import Highlight.Proofs.Grammar.Trees
import Highlight.Proofs.Pattern.Leftmost

/-!
# What cursors save

A cursor keeps what a search from an earlier place of the scan has found.  As long as the match
starts at or behind the place of the scan, a search from there would find the same again, and a
search that once found nothing never will.  So keeping cursors changes nothing for rules without a
token group: their scan is the one that searches for every rule afresh in every round.  With a token
group a cursor can also be kept whose match starts in front of the place, while its token does not.
-/

namespace Highlight

/-! ### What a cursor knows -/

/-- What the cursor of a rule knows was found by searches from certain places. -/
inductive Cursor.From (a : Pattern) (hay : Array Char) (been : Nat → Prop) : Cursor → Prop
  | unsearched : From a hay been .unsearched
  | found {q : Nat} {f : Found} (hq : been q) (hf : a.findToken hay q = some f) :
      From a hay been (.found f)
  | exhausted {q : Nat} (hq : been q) (hnone : a.findToken hay q = none) :
      From a hay been .exhausted

namespace Cursor

variable {a : Pattern} {hay : Array Char} {been been' : Nat → Prop} {p : Nat} {c : Cursor}

/-- What a search for the rule's next token makes of its cursor. -/
def search (a : Pattern) (hay : Array Char) (p : Nat) : Cursor :=
  match a.findToken hay p with
  | some f => found f
  | none => exhausted

theorem found?_search (a : Pattern) (hay : Array Char) (p : Nat) :
    (search a hay p).found? = a.findToken hay p := by
  unfold search
  split <;> simp_all [found?]

theorem From.mono (h : c.From a hay been) (hmono : ∀ q, been q → been' q) : c.From a hay been' := by
  cases h with
  | unsearched => exact .unsearched
  | found hq hf => exact .found (hmono _ hq) hf
  | exhausted hq hnone => exact .exhausted (hmono _ hq) hnone

theorem from_search (hp : been p) : (search a hay p).From a hay been := by
  unfold search
  split
  · exact .found hp ‹_›
  · exact .exhausted hp ‹_›

/-- A cursor is brought up by a search, or kept with a token that starts at the place or later. -/
theorem advance_eq (a : Pattern) (hay : Array Char) (p : Nat) (c : Cursor) :
    c.advance a hay p = search a hay p ∨
      (c = .exhausted ∧ c.advance a hay p = c) ∨
      ∃ f, c = .found f ∧ p ≤ f.start ∧ c.advance a hay p = c := by
  cases c with
  | unsearched => exact Or.inl rfl
  | exhausted => exact Or.inr (Or.inl ⟨rfl, rfl⟩)
  | found f =>
      by_cases hp : p ≤ f.start
      · exact Or.inr (Or.inr ⟨f, rfl, hp, by rw [advance, if_pos hp]⟩)
      · refine Or.inl ?_
        rw [advance, if_neg hp]
        rfl

theorem From.advance (h : c.From a hay been) (hp : been p) :
    (c.advance a hay p).From a hay been := by
  rcases advance_eq a hay p c with hc | ⟨-, hc⟩ | ⟨f, -, -, hc⟩
  · exact hc ▸ from_search hp
  · exact hc.symm ▸ h
  · exact hc.symm ▸ h

/-- The candidate of a rule is what a search from the place finds, or it was found before, by a
match that starts in front of the place while its token does not. -/
theorem From.candidate (h : c.From a hay been) (hle : ∀ q, been q → q ≤ p) :
    (c.advance a hay p).found? = a.findToken hay p ∨
      ∃ q f, been q ∧ q < p ∧ a.findToken hay q = some f ∧
        (c.advance a hay p).found? = some f ∧ f.matchStart < p ∧ p ≤ f.start := by
  rcases advance_eq a hay p c with hc | ⟨rfl, hc⟩ | ⟨f, rfl, hp, hc⟩
  · exact Or.inl (by rw [hc, found?_search])
  · cases h with
    | exhausted hq hnone =>
        rw [hc, Pattern.findToken_eq_none_of_le hnone (hle _ hq)]
        exact Or.inl rfl
  · cases h with
    | @found q _ hq hf =>
        rw [hc]
        -- Only a match that starts in front of the place can differ from what a search finds there.
        rcases Nat.lt_or_ge f.matchStart p with hlt | hge
        · have hstart : q ≤ f.matchStart := Pattern.le_matchStart_of_findToken hf
          exact Or.inr ⟨q, f, hq, Nat.lt_of_le_of_lt hstart hlt, hf, rfl, hlt, hp⟩
        · rw [Pattern.findToken_of_le hf (hle _ hq) hge]
          exact Or.inl rfl

end Cursor

namespace RuleTree

variable {root tree : RuleGrammar} {hay : Array Char} {rs : List Tracked} {p : Nat}

/-- The scan was at a place before or at `p`. -/
def Been (tree : RuleGrammar) (hay : Array Char) (p q : Nat) : Prop :=
  q ≤ p ∧ ∃ rs, Reaches tree hay rs q

theorem Reaches.from (h : Reaches tree hay rs p) :
    ∀ t ∈ rs, t.2.From t.1.pattern hay (Been tree hay p) := by
  induction h with
  | start =>
      intro t ht
      obtain ⟨r, -, rfl⟩ := List.mem_map.mp ht
      exact .unsearched
  | @next rs p r f h hbest ih =>
      intro t ht
      obtain ⟨t', ht', rfl⟩ := List.mem_map.mp ht
      obtain ⟨hp, hlt, -⟩ : f.Fits p hay.size := Takes.fits ⟨rs, h, hbest⟩
      have hhere : Been tree hay p p := ⟨Nat.le_refl p, rs, h⟩
      exact ((ih t' ht').advance hhere).mono fun q hq => ⟨by have := hq.1; omega, hq.2⟩

/-- In each round, the candidate of each rule is what a search from the place finds, or was found in
an earlier round by a match that starts in front of the place; in any case its token does not. -/
theorem Reaches.candidates (h : Reaches tree hay rs p) :
    ∀ t ∈ advanceAll hay p rs, (∀ f, t.2.found? = some f → p ≤ f.start) ∧
      (t.2.found? = t.1.pattern.findToken hay p ∨
        ∃ q f, Been tree hay p q ∧ q < p ∧ t.1.pattern.findToken hay q = some f ∧
          t.2.found? = some f ∧ f.matchStart < p ∧ p ≤ f.start) := by
  intro t ht
  obtain ⟨t', ht', rfl⟩ := List.mem_map.mp ht
  refine ⟨fun f hf => ?_, (h.from t' ht').candidate fun q hq => hq.1⟩
  have hcursor : t'.2.advance t'.1.pattern hay p = .found f := by
    cases hc : t'.2.advance t'.1.pattern hay p <;> simp_all [Cursor.found?]
  exact (Cursor.fits_advance (h.fit.1 t' ht') hcursor).1

theorem Takes.exists_findToken {r : Rule Pattern} {f : Found} (h : Takes tree hay p r f) :
    ∃ q, r.pattern.findToken hay q = some f := by
  obtain ⟨rs, hreach, hbest⟩ := h
  rcases (hreach.candidates _ (mem_of_earliest hbest)).2 with hfresh | ⟨q, g, -, -, hg, hf, -⟩
  · exact ⟨p, hfresh.symm⟩
  · obtain rfl : f = g := by simpa [Cursor.found?] using hf
    exact ⟨q, hg⟩

theorem Takes.findToken_eq {r : Rule Pattern} {f : Found} (h : Takes tree hay p r f)
    (hr : r.pattern.hasToken = false) : r.pattern.findToken hay p = some f := by
  obtain ⟨rs, hreach, hbest⟩ := h
  rcases (hreach.candidates _ (mem_of_earliest hbest)).2 with hfresh | ⟨q, g, -, -, hg, -, hlt, hge⟩
  · exact hfresh.symm
  · have hwhole : g.start = g.matchStart := Pattern.start_of_findToken hr hg
    omega

theorem found?_eq_none_of_earliest {ts : List Tracked} (h : earliest ts = none) :
    ∀ t ∈ ts, t.2.found? = none := by
  induction ts with
  | nil => simp
  | cons t ts ih =>
      rw [earliest] at h
      split at h
      · rename_i hnone
        exact List.forall_mem_cons.mpr ⟨hnone, ih h⟩
      · simp at h
      · split at h <;> simp at h

theorem Reaches.findToken_eq_none (h : Reaches tree hay rs p)
    (hnone : earliest (advanceAll hay p rs) = none) {r : Rule Pattern} (hr : r ∈ tree.rules) :
    r.pattern.findToken hay p = none := by
  rw [← h.rules, ← map_fst_advanceAll hay p rs] at hr
  obtain ⟨t, ht, rfl⟩ := List.mem_map.mp hr
  have hfound := found?_eq_none_of_earliest hnone t ht
  rcases (h.candidates t ht).2 with hfresh | ⟨-, f, -, -, -, hf, -⟩
  · exact hfresh.symm.trans hfound
  · simp [hf] at hfound

/-! ### The scan without cursors -/

/-- The rule whose token starts first when each is searched for from `p` on; of several, the first
in the list. -/
def earliestAfresh (hay : Array Char) (p : Nat) :
    List (Rule Pattern) → Option (Rule Pattern × Found)
  | [] => none
  | r :: rs =>
      match r.pattern.findToken hay p, earliestAfresh hay p rs with
      | none, best => best
      | some f, none => some (r, f)
      | some f, some (s, g) => if g.start < f.start then some (s, g) else some (r, f)

/-- The scan of the text from `p` on that searches for every rule in every round. -/
def afreshFrom (root : RuleGrammar) (limits : Limits) (descend : Descend) (tree : RuleGrammar)
    (hay : Array Char) (base : Nat) (labels : List String) : Nat → Nat → Array Token → Output
  | 0, p, out => gap root limits descend tree hay base labels p hay.size out
  | fuel + 1, p, out =>
      match earliestAfresh hay p tree.rules with
      | none => gap root limits descend tree hay base labels p hay.size out
      | some (r, f) =>
          match gap root limits descend tree hay base labels p f.start out with
          | .error e => .error e
          | .ok out =>
              match take root limits descend hay base labels r f out with
              | .error e => .error e
              | .ok out => afreshFrom root limits descend tree hay base labels fuel f.stop out

/-- The scan by a tree that keeps no cursors, when `levels` more levels of nesting are allowed. -/
def scanAfresh (root : RuleGrammar) (limits : Limits) : Nat → Descend
  | 0, _, _, _, _, _ => .error (.nestingTooDeep limits.maxDepth)
  | levels + 1, tree, hay, base, labels, out =>
      afreshFrom root limits (scanAfresh root limits levels) tree hay base labels
        (hay.size + 1) 0 out

/-- The tokens that the scan without cursors finds. -/
def tokenizeAfresh (root : RuleGrammar) (text : String) (limits : Limits) :
    Except TokenizeError (List Token) :=
  match scanAfresh root limits (limits.maxDepth + 1) root text.toList.toArray 0 [] #[] with
  | .error e => .error e
  | .ok out => .ok out.toList

theorem earliest_eq_earliestAfresh {ts : List Tracked}
    (h : ∀ t ∈ ts, t.2.found? = t.1.pattern.findToken hay p) :
    earliest ts = earliestAfresh hay p (ts.map Prod.fst) := by
  induction ts with
  | nil => rfl
  | cons t ts ih =>
      obtain ⟨hhead, hrest⟩ := List.forall_mem_cons.mp h
      rw [List.map_cons, earliest, hhead, ih hrest]
      rfl

/-- No pattern of the tree, those of the trees inside it included, has a token group. -/
def Ungrouped (tree : RuleGrammar) : Prop := ∀ a ∈ tree.patterns, a.hasToken = false

theorem Reaches.earliest_eq (h : Reaches tree hay rs p) (htree : tree.Ungrouped) :
    earliest (advanceAll hay p rs) = earliestAfresh hay p tree.rules := by
  rw [← h.rules, ← map_fst_advanceAll hay p rs]
  refine earliest_eq_earliestAfresh fun t ht => ?_
  rcases (h.candidates t ht).2 with hfresh | ⟨q, f, -, -, hf, -, hmatch, hstart⟩
  · exact hfresh
  · have hrule : t.1 ∈ tree.rules := by
      rw [← h.rules, ← map_fst_advanceAll hay p rs]
      exact List.mem_map_of_mem ht
    have hwhole := Pattern.start_of_findToken (htree _ (pattern_mem_patterns hrule)) hf
    omega

section

variable {limits : Limits} {descend descend' : Descend} {base fuel : Nat} {labels : List String}

/-- Nested scans by trees without token groups agree. -/
def AgreeUngrouped (descend descend' : Descend) : Prop :=
  ∀ tree : RuleGrammar, tree.Ungrouped → descend tree = descend' tree

theorem AgreeUngrouped.gap (h : AgreeUngrouped descend descend') (hroot : root.Ungrouped)
    {q : Nat} {out : Array Token} :
    gap root limits descend tree hay base labels p q out =
      gap root limits descend' tree hay base labels p q out := by
  unfold RuleTree.gap
  rw [h root hroot]

theorem AgreeUngrouped.take (h : AgreeUngrouped descend descend') (hroot : root.Ungrouped)
    {r : Rule Pattern} (hr : ∀ inner, r.inside = .nested inner → inner.Ungrouped) {f : Found}
    {out : Array Token} :
    take root limits descend hay base labels r f out =
      take root limits descend' hay base labels r f out := by
  unfold RuleTree.take
  cases hinside : r.inside with
  | token => rfl
  | nested inner => simp only [h inner (hr inner hinside)]
  | root => simp only [h root hroot]

theorem AgreeUngrouped.scanFrom (h : AgreeUngrouped descend descend') (hroot : root.Ungrouped)
    (htree : tree.Ungrouped) (hreach : Reaches tree hay rs p) (out : Array Token) :
    scanFrom root limits descend tree hay base labels fuel rs p out =
      afreshFrom root limits descend' tree hay base labels fuel p out := by
  induction fuel generalizing rs p out with
  | zero => exact h.gap hroot
  | succ fuel ih =>
      rw [RuleTree.scanFrom, afreshFrom]
      cases hbest : earliest (advanceAll hay p rs) with
      | none =>
          rw [← hreach.earliest_eq htree, hbest]
          exact h.gap hroot
      | some best =>
          obtain ⟨r, f⟩ := best
          have hrule : r ∈ tree.rules := Takes.mem_rules ⟨rs, hreach, hbest⟩
          have hnested : ∀ inner, r.inside = .nested inner → inner.Ungrouped :=
            fun inner hinside a ha => htree a (nested_patterns_subset hrule hinside ha)
          rw [← hreach.earliest_eq htree, hbest]
          dsimp only
          rw [h.gap hroot]
          cases RuleTree.gap root limits descend' tree hay base labels p f.start out with
          | error e => rfl
          | ok out₁ =>
              dsimp only
              rw [h.take hroot hnested]
              cases RuleTree.take root limits descend' hay base labels r f out₁ with
              | error e => rfl
              | ok out₂ => exact ih (hreach.next hbest) out₂

end

theorem scan_eq_scanAfresh (hroot : root.Ungrouped) (limits : Limits) (levels : Nat) :
    AgreeUngrouped (scan root limits levels) (scanAfresh root limits levels) := by
  induction levels with
  | zero => exact fun tree _ => rfl
  | succ levels ih =>
      intro tree htree
      funext hay base labels out
      exact ih.scanFrom hroot htree .start out

/-- Cursors only save searches.  Without token groups the tokens are those that a scan without
cursors finds, which searches for every rule in every round.  And with them, too, the candidate of
each rule in each round of a scan is what a search from its place finds, or what a search in an
earlier round found: a match that starts in front of the place with a token that does not.  No
candidate's token starts in front of the place. -/
theorem cursors_only_save_searches (root : RuleGrammar) :
    (root.Ungrouped → ∀ text limits, root.tokenize text limits = root.tokenizeAfresh text limits) ∧
    ∀ tree hay rs p, Reaches tree hay rs p → ∀ t ∈ advanceAll hay p rs,
      (∀ f, t.2.found? = some f → p ≤ f.start) ∧
      (t.2.found? = t.1.pattern.findToken hay p ∨
        ∃ rs' q f, Reaches tree hay rs' q ∧ q < p ∧ t.1.pattern.findToken hay q = some f ∧
          t.2.found? = some f ∧ f.matchStart < p ∧ p ≤ f.start) := by
  refine ⟨fun hroot text limits => ?_, fun tree hay rs p hreach t ht => ?_⟩
  · unfold tokenize
    rw [scan_eq_scanAfresh hroot limits _ root hroot]
    rfl
  · obtain ⟨hstart, hfresh | ⟨q, f, ⟨-, rs', hbeen⟩, hlt, hf, hfound, hmatch⟩⟩ :=
      hreach.candidates t ht
    · exact ⟨hstart, Or.inl hfresh⟩
    · exact ⟨hstart, Or.inr ⟨rs', q, f, hbeen, hlt, hf, hfound, hmatch⟩⟩

end RuleTree

end Highlight
