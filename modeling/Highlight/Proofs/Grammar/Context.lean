import Highlight.Proofs.Grammar.Cursors
import Mathlib.Data.List.Infix

/-!
# Context around a token

Of what a pattern takes up, only the token is emitted; the rest is context.  A match counts in a
round when its token starts at the place of the scan or behind it, wherever its context begins, and
the first of these matches over the whole text is the one that a rule ought to go by.  A cursor
keeps a match whose context begins in front of the place.  But once the scan has passed the start of
the token that a rule knows, the rule is searched from the place on, and then matches whose context
begins in front of it are lost.  So a candidate is the right one exactly when no match from in front
of the place of the rule's last search still has a token to give.
-/

namespace Highlight

/-- The first match of the whole text, by its start, whose token is not empty and starts at `p` or
behind it, or there is none. -/
def Pattern.FirstEligible (a : Pattern) (hay : Array Char) (p : Nat) : Option Found → Prop
  | none => ∀ m ≤ hay.size, ∀ g, a.tokenAt hay m = some g → g.start < p
  | some f => f.matchStart ≤ hay.size ∧ a.tokenAt hay f.matchStart = some f ∧ p ≤ f.start ∧
      ∀ m < f.matchStart, ∀ g, a.tokenAt hay m = some g → g.start < p

/-- What a search from an earlier place found is the first eligible match if and only if no match
that starts in front of that place has a token at `p` or behind it. -/
theorem Pattern.firstEligible_iff {a : Pattern} {hay : Array Char} {p q : Nat} {f? : Option Found}
    (hf : FirstToken a hay q f?) (hq : q ≤ hay.size) (hstart : ∀ f, f? = some f → p ≤ f.start) :
    FirstEligible a hay p f? ↔ ∀ m < q, ∀ g, a.tokenAt hay m = some g → g.start < p := by
  cases f? with
  | none =>
      refine ⟨fun h m hm => h m (by omega), fun h m hm g hg => ?_⟩
      rcases Nat.lt_or_ge m q with hlt | hge
      · exact h m hlt g hg
      · simp [hf m hge hm] at hg
  | some f =>
      obtain ⟨hle, hsize, hat, hnone⟩ := hf
      refine ⟨fun ⟨_, _, _, h⟩ m hm => h m (by omega), fun h => ?_⟩
      refine ⟨hsize, hat, hstart f rfl, fun m hm g hg => ?_⟩
      rcases Nat.lt_or_ge m q with hlt | hge
      · exact h m hlt g hg
      · simp [hnone m hge hm] at hg

namespace RuleTree

variable {tree : RuleGrammar} {hay : Array Char} {rs : List Tracked} {p : Nat}

/-- The candidate of a rule is what its last search found, which was made in this round or the
cursor was kept. -/
theorem Reaches.exists_search (h : Reaches tree hay rs p) {t : Tracked}
    (ht : t ∈ advanceAll hay p rs) :
    ∃ q, Been tree hay p q ∧ t.2.found? = t.1.pattern.findToken hay q ∧ (q = p ∨ t ∈ rs) := by
  obtain ⟨⟨r, c⟩, hc, rfl⟩ := List.mem_map.mp ht
  have hfrom : c.From r.pattern hay (Been tree hay p) := h.from _ hc
  rcases c.advance_eq r.pattern hay p with hsearch | ⟨rfl, hkept⟩ | ⟨f, rfl, -, hkept⟩
  · refine ⟨p, ⟨Nat.le_refl p, rs, h⟩, ?_, Or.inl rfl⟩
    dsimp only
    rw [hsearch, Cursor.found?_search]
  · cases hfrom with
    | @exhausted q hq hnone =>
        refine ⟨q, hq, ?_, Or.inr ?_⟩
        · rw [hnone]
          rfl
        · exact hkept.symm ▸ hc
  · cases hfrom with
    | @found q _ hq hf =>
        refine ⟨q, hq, ?_, Or.inr ?_⟩
        · dsimp only
          rw [hkept, hf]
          rfl
        · exact hkept.symm ▸ hc

/-- In each round, the candidate of a rule is what its last search found, and it is the first
eligible match if and only if no match that starts in front of the place of that search has a token
that the scan has still in front of it.  So it is in the first round, and in every round for rules
without a token group. -/
theorem candidate_first_eligible_iff (tree : RuleGrammar) (hay : Array Char) (rs : List Tracked)
    (p : Nat) (h : Reaches tree hay rs p) :
    ∀ t ∈ advanceAll hay p rs,
      (∃ q rs', q ≤ p ∧ Reaches tree hay rs' q ∧ (q = p ∨ t ∈ rs) ∧
        t.2.found? = t.1.pattern.findToken hay q ∧
        (t.1.pattern.FirstEligible hay p t.2.found? ↔
          ∀ m < q, ∀ g, t.1.pattern.tokenAt hay m = some g → g.start < p)) ∧
      (p = 0 ∨ t.1.pattern.hasToken = false → t.1.pattern.FirstEligible hay p t.2.found?) := by
  intro t ht
  obtain ⟨q, ⟨hqp, rs', hbeen⟩, hsearch, hkept⟩ := h.exists_search ht
  have hiff : t.1.pattern.FirstEligible hay p t.2.found? ↔
      ∀ m < q, ∀ g, t.1.pattern.tokenAt hay m = some g → g.start < p :=
    Pattern.firstEligible_iff (Pattern.firstToken_of_findToken hsearch.symm) hbeen.fit.2
      (h.candidates t ht).1
  refine ⟨⟨q, rs', hqp, hbeen, hkept, hsearch, hiff⟩, fun hcase => hiff.mpr fun m hm g hg => ?_⟩
  rcases hcase with rfl | hgroup
  · omega
  · have hwhole : g.start = m := Pattern.start_of_tokenAt hgroup hg
    omega

/-- From the first match of the text a scan comes to the end of its token. -/
theorem reaches_second {f : Found}
    (h : (earliest (advanceAll hay 0 (tree.rules.map fun r => (r, .unsearched)))).map Prod.snd =
      some f) :
    Reaches tree hay (advanceAll hay 0 (tree.rules.map fun r => (r, .unsearched))) f.stop := by
  obtain ⟨⟨r, f⟩, hbest, rfl⟩ := Option.map_eq_some_iff.mp h
  exact .next .start hbest

/-- An opening, and names behind an opening. -/
def openingAndName : RuleGrammar :=
  ((named "markup").rule "punctuation" (.char (.single '<'))).rule "tag"
    (.seq (.char (.single '<')) (.token (.char (.range 'a' 'z'))))

theorem name_behind_an_emitted_opening :
    ∃ rs t, Reaches openingAndName "<b".toList.toArray rs 1 ∧
      t ∈ advanceAll "<b".toList.toArray 1 rs ∧ t.1.label = "tag" ∧
      t.2.found? = some ⟨0, 1, 2⟩ ∧
      t.1.pattern.FirstEligible "<b".toList.toArray 1 t.2.found? := by
  have hround : (earliest (advanceAll "<b".toList.toArray 0
      (openingAndName.rules.map fun r => (r, .unsearched)))).map Prod.snd = some ⟨0, 0, 1⟩ := by
    decide +kernel
  have hreach := reaches_second hround
  obtain ⟨t, ht⟩ : ∃ t, (advanceAll "<b".toList.toArray 1 (advanceAll "<b".toList.toArray 0
      (openingAndName.rules.map fun r => (r, .unsearched))))[1]? = some t := ⟨_, rfl⟩
  have hmem := List.mem_of_getElem? ht
  have hlabel : t.1.label = "tag" := by
    obtain rfl := Option.some.inj ht
    rfl
  have hfound : t.2.found? = some ⟨0, 1, 2⟩ := by
    obtain rfl := Option.some.inj ht
    decide +kernel
  obtain ⟨⟨q, rs', -, -, -, hsearch, hiff⟩, -⟩ := candidate_first_eligible_iff _ _ _ _ hreach t hmem
  -- The match starts at the very start of the text, so the search did, too.
  have hq : q ≤ 0 := Pattern.le_matchStart_of_findToken (hsearch.symm.trans hfound)
  exact ⟨_, t, hreach, hmem, hlabel, hfound, hiff.mpr fun m hm => by omega⟩

/-- Pairs, and letters behind an `a`, as they are written. -/
def writtenFollowers : RuleSource :=
  ((named "letters").rule "pair" "aa").rule "follower" "a(?P<t>[ab])"

def followers : RuleGrammar :=
  ((named "letters").rule "pair" (.seq (.char (.single 'a')) (.char (.single 'a')))).rule "follower"
    (.seq (.char (.single 'a')) (.token (.char (.union (.single 'a') (.single 'b')))))

theorem compile_writtenFollowers : writtenFollowers.compile = .ok followers := by
  have hpair : Pattern.ofString "aa" = .ok (.seq (.char (.single 'a')) (.char (.single 'a'))) := rfl
  have hfollower : Pattern.ofString "a(?P<t>[ab])" =
      .ok (.seq (.char (.single 'a')) (.token (.char (.union (.single 'a') (.single 'b'))))) := rfl
  simp [writtenFollowers, followers, named, rule, addRules, name, rules, restToRoot, compile,
    compileRules, Rule.compile, Inside.compile, hpair, hfollower]

/-- The last letter of `aab` stands behind an `a` just as that of `cab` does.  But the pair swallows
the follower that its rule has found first, and the match that would give the last letter begins
inside the pair. -/
theorem swallowed_follower_hides_the_next :
    writtenFollowers.compile = .ok followers ∧
      followers.tokenize "cab" {} = .ok [⟨2, 3, ["follower"]⟩] ∧
      followers.tokenize "aab" {} = .ok [⟨0, 2, ["pair"]⟩] ∧
      ∃ rs t, Reaches followers "aab".toList.toArray rs 2 ∧
        t ∈ advanceAll "aab".toList.toArray 2 rs ∧ t.1.label = "follower" ∧
        t.1.pattern.tokenAt "aab".toList.toArray 1 = some ⟨1, 2, 3⟩ ∧
        ¬ t.1.pattern.FirstEligible "aab".toList.toArray 2 t.2.found? := by
  have hround : (earliest (advanceAll "aab".toList.toArray 0
      (followers.rules.map fun r => (r, .unsearched)))).map Prod.snd = some ⟨0, 0, 2⟩ := by
    decide +kernel
  have hreach := reaches_second hround
  obtain ⟨t, ht⟩ : ∃ t, (advanceAll "aab".toList.toArray 2 (advanceAll "aab".toList.toArray 0
      (followers.rules.map fun r => (r, .unsearched))))[1]? = some t := ⟨_, rfl⟩
  have hmem := List.mem_of_getElem? ht
  obtain ⟨hlabel, htoken, hnone⟩ : t.1.label = "follower" ∧
      t.1.pattern.tokenAt "aab".toList.toArray 1 = some ⟨1, 2, 3⟩ ∧ t.2.found? = none := by
    obtain rfl := Option.some.inj ht
    decide +kernel
  refine ⟨compile_writtenFollowers, by decide +kernel, by decide +kernel, _, t, hreach, hmem,
    hlabel, htoken, fun h => ?_⟩
  rw [hnone] at h
  exact absurd (h 1 (by decide) _ htoken) (by decide)

end RuleTree

end Highlight
