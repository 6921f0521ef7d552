import Highlight.Proofs.Grammar.Rounds
import Highlight.Proofs.Pattern.Leftmost

/-!
# The searches for a token

The next token of a rule is found by one search after another.  A match with a token ends them, and
after a match without one the next search begins behind the start of that match, so that the places
where searches begin ascend.  A place behind the end of the text ends them as well, before anything
is looked at.  Hence they end from every place, with the first token or because there is none, and
each round of a scan that takes a token goes forward.
-/

namespace Highlight

namespace Pattern

/-- The searches for a token begin at these places, one after the other, and come to this result. -/
inductive Searches (a : Pattern) (hay : Array Char) : List Nat → Option Found → Prop
  | past {p : Nat} (hp : hay.size < p) : Searches a hay [p] none
  | nothing {p : Nat} (hp : p ≤ hay.size) (hfind : a.find hay p = none) : Searches a hay [p] none
  | token {p : Nat} {h : Hit} (hp : p ≤ hay.size) (hfind : a.find hay p = some h)
      (htoken : h.token.start < h.token.stop) :
      Searches a hay [p] (some ⟨h.start, h.token.start, h.token.stop⟩)
  | again {p : Nat} {h : Hit} {ps : List Nat} {f? : Option Found} (hp : p ≤ hay.size)
      (hfind : a.find hay p = some h) (hempty : h.token.stop ≤ h.token.start)
      (hrest : Searches a hay ((h.start + 1) :: ps) f?) :
      Searches a hay (p :: (h.start + 1) :: ps) f?

variable {a : Pattern} {hay : Array Char} {p : Nat} {f? : Option Found}

theorem start_of_find {h : Hit} (hfind : a.find hay p = some h) :
    p ≤ h.start ∧ h.start ≤ hay.size := by
  obtain ⟨hstart, hstop, hway⟩ := find_eq_some hfind
  exact ⟨hstart, Nat.le_trans hway.le hstop⟩

namespace Searches

theorem ascending {ps : List Nat} (h : Searches a hay ps f?) : ps.Pairwise (· < ·) := by
  induction h with
  | past | nothing | token => exact List.pairwise_singleton _ _
  | again hp hfind hempty hrest ih =>
      obtain ⟨hstart, -⟩ := start_of_find hfind
      refine List.pairwise_cons.mpr ⟨fun q hq => ?_, ih⟩
      rcases List.mem_cons.mp hq with rfl | hq
      · omega
      · have hlt := (List.pairwise_cons.mp ih).1 q hq
        omega

/-- No more searches follow the first one than there are places behind it, that of the end
included. -/
theorem length_le {ps : List Nat} (h : Searches a hay (p :: ps) f?) :
    ps.length ≤ hay.size + 1 - p := by
  generalize hqs : p :: ps = qs at h
  induction h generalizing p ps with
  | past | nothing | token =>
      obtain ⟨-, rfl⟩ := List.cons.inj hqs
      exact Nat.zero_le _
  | again hp hfind hempty hrest ih =>
      obtain ⟨rfl, rfl⟩ := List.cons.inj hqs
      obtain ⟨hstart, hsize⟩ := start_of_find hfind
      have hlength := ih rfl
      rw [List.length_cons]
      omega

/-- Where the searches begin and what they come to follows from where the first one begins. -/
theorem eq {ps qs : List Nat} {g? : Option Found} (h : Searches a hay (p :: ps) f?)
    (h' : Searches a hay (p :: qs) g?) : ps = qs ∧ f? = g? := by
  generalize hps : p :: ps = ps' at h
  induction h generalizing p ps qs with
  | past hp =>
      obtain ⟨rfl, rfl⟩ := List.cons.inj hps
      cases h' with
      | past => exact ⟨rfl, rfl⟩
      | nothing hle | token hle | again hle => omega
  | nothing hp hfind =>
      obtain ⟨rfl, rfl⟩ := List.cons.inj hps
      cases h' with
      | past hlt => omega
      | nothing => exact ⟨rfl, rfl⟩
      | token _ hfind' | again _ hfind' => simp [hfind] at hfind'
  | token hp hfind htoken =>
      obtain ⟨rfl, rfl⟩ := List.cons.inj hps
      cases h' with
      | past hlt => omega
      | nothing _ hfind' => simp [hfind] at hfind'
      | token _ hfind' =>
          obtain rfl := Option.some.inj (hfind.symm.trans hfind')
          exact ⟨rfl, rfl⟩
      | again _ hfind' hempty =>
          obtain rfl := Option.some.inj (hfind.symm.trans hfind')
          omega
  | again hp hfind hempty hrest ih =>
      obtain ⟨rfl, rfl⟩ := List.cons.inj hps
      cases h' with
      | past hlt => omega
      | nothing _ hfind' => simp [hfind] at hfind'
      | token _ hfind' htoken =>
          obtain rfl := Option.some.inj (hfind.symm.trans hfind')
          omega
      | again _ hfind' _ hrest' =>
          obtain rfl := Option.some.inj (hfind.symm.trans hfind')
          obtain ⟨rfl, rfl⟩ := ih hrest' rfl
          exact ⟨rfl, rfl⟩

end Searches

/-- As many searches as there are places are enough. -/
theorem exists_searches_findTokenWithin {fuel : Nat} (hfuel : hay.size + 1 ≤ fuel + p) :
    ∃ ps, Searches a hay (p :: ps) (a.findTokenWithin hay fuel p) := by
  induction fuel generalizing p with
  | zero => exact ⟨[], .past (by omega)⟩
  | succ fuel ih =>
      rw [findTokenWithin]
      split
      · exact ⟨[], .past ‹_›⟩
      · rename_i hp
        have hle : p ≤ hay.size := Nat.le_of_not_lt hp
        cases hfind : a.find hay p with
        | none => exact ⟨[], .nothing hle hfind⟩
        | some h =>
            dsimp only
            split
            · exact ⟨[], .token hle hfind ‹_›⟩
            · rename_i hempty
              obtain ⟨hstart, -⟩ := start_of_find hfind
              obtain ⟨ps, hps⟩ := ih (p := h.start + 1) (by omega)
              exact ⟨_, .again hle hfind (Nat.le_of_not_lt hempty) hps⟩

theorem exists_searches (a : Pattern) (hay : Array Char) (p : Nat) :
    ∃ ps, Searches a hay (p :: ps) (a.findToken hay p) :=
  exists_searches_findTokenWithin (by omega)

/-! ### The first token -/

/-- The token of the first match, from `p` on, that has one. -/
def FirstMatch (a : Pattern) (hay : Array Char) (p : Nat) (f : Found) : Prop :=
  ∃ h, p ≤ h.start ∧ h.start ≤ hay.size ∧ a.matchAt hay h.start = some h ∧
    h.token.start < h.token.stop ∧ f = ⟨h.start, h.token.start, h.token.stop⟩ ∧
    ∀ m, p ≤ m → m < h.start → ∀ h', a.matchAt hay m = some h' → h'.token.stop ≤ h'.token.start

theorem firstMatch_iff {f : Found} : FirstMatch a hay p f ↔ FirstToken a hay p (some f) := by
  constructor
  · rintro ⟨h, hp, hsize, hat, htoken, rfl, hbefore⟩
    exact ⟨hp, hsize, tokenAt_eq_some_iff.mpr ⟨h, hat, htoken, rfl⟩,
      fun m hm hlt => tokenAt_eq_none_iff.mpr (hbefore m hm hlt)⟩
  · rintro ⟨hp, hsize, hat, hbefore⟩
    obtain ⟨h, hm, htoken, rfl⟩ := tokenAt_eq_some_iff.mp hat
    exact ⟨h, hp, hsize, hm, htoken, rfl,
      fun m hm hlt => tokenAt_eq_none_iff.mp (hbefore m hm hlt)⟩

theorem findToken_eq_iff : a.findToken hay p = f? ↔ FirstToken a hay p f? :=
  ⟨firstToken_of_findToken, (firstToken_findToken a hay p).eq⟩

/-- The searches for a rule's token begin at ascending places, so they are not many, and come to one
result.  It is the token of the first match at or behind the place whose token is not empty, where
of the matches that start at a place only the preferred one counts, and where the token is what the
token group covers, or the whole match if that group took no part.  There is none if and only if all
of these have empty tokens.  So each round of a scan that takes a match goes forward. -/
theorem token_search_ends_at_the_first_token (a : Pattern) (hay : Array Char) (p : Nat) :
    (∃ ps, Searches a hay (p :: ps) (a.findToken hay p) ∧
      (∀ qs g?, Searches a hay (p :: qs) g? → qs = ps ∧ g? = a.findToken hay p) ∧
      (p :: ps).Pairwise (· < ·) ∧ ps.length ≤ hay.size + 1 - p) ∧
    (∀ f, a.findToken hay p = some f ↔ FirstMatch a hay p f) ∧
    (a.findToken hay p = none ↔ ∀ m, p ≤ m → m ≤ hay.size → ∀ h, a.matchAt hay m = some h →
      h.token.stop ≤ h.token.start) ∧
    ∀ tree rs r f, RuleTree.Reaches tree hay rs p → earliest (advanceAll hay p rs) = some (r, f) →
      p < f.stop ∧ f.stop ≤ hay.size := by
  refine ⟨?_, fun f => findToken_eq_iff.trans firstMatch_iff.symm, ?_, ?_⟩
  · obtain ⟨ps, hps⟩ := exists_searches a hay p
    refine ⟨ps, hps, fun qs g? hqs => ?_, hps.ascending, hps.length_le⟩
    obtain ⟨hsame, hresult⟩ := hps.eq hqs
    exact ⟨hsame.symm, hresult.symm⟩
  · rw [findToken_eq_iff]
    exact forall₃_congr fun m _ _ => tokenAt_eq_none_iff
  · intro tree rs r f hreach hbest
    obtain ⟨hp, hlt, hstop⟩ := RuleTree.Takes.fits ⟨rs, hreach, hbest⟩
    exact ⟨Nat.lt_of_le_of_lt hp hlt, hstop⟩

end Pattern

end Highlight
