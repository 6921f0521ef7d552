import Highlight.Grammar.Scan
import Highlight.Pattern.Needs

/-!
# The first match

A search gives the match with the smallest start at or after the place where it begins: `find` the
first place that has a match, `findToken` the first that has one with a token.  What a search gives
from one place is therefore what it gives from every later place up to the start of the match, and a
search that finds nothing finds nothing from any later place either.
-/

namespace Highlight.Pattern

variable {a : Pattern} {hay : Array Char} {p q : Nat}

theorem findWithin_eq_none_iff {n : Nat} :
    a.findWithin hay n p = none ↔ ∀ m, p ≤ m → m < p + n → a.matchAt hay m = none := by
  induction n generalizing p with
  | zero =>
      simp only [findWithin, true_iff]
      omega
  | succ n ih =>
      rw [findWithin]
      cases hm : a.matchAt hay p with
      | some h =>
          simp only [reduceCtorEq, false_iff]
          intro hnone
          simp [hnone p (Nat.le_refl p) (by omega)] at hm
      | none =>
          rw [ih]
          constructor
          · intro hnone m hp hlt
            rcases Nat.eq_or_lt_of_le hp with rfl | hp
            · exact hm
            · exact hnone m hp (by omega)
          · exact fun hnone m hp hlt => hnone m (by omega) (by omega)

theorem matchAt_of_findWithin {n : Nat} {h : Hit} (hf : a.findWithin hay n p = some h) :
    a.matchAt hay h.start = some h ∧ ∀ m, p ≤ m → m < h.start → a.matchAt hay m = none := by
  induction n generalizing p with
  | zero => simp [findWithin] at hf
  | succ n ih =>
      rw [findWithin] at hf
      cases hm : a.matchAt hay p with
      | some h' =>
          obtain rfl : h' = h := by simpa [hm] using hf
          obtain ⟨hstart, -⟩ := matchAt_eq_some hm
          exact ⟨by rwa [hstart], by omega⟩
      | none =>
          obtain ⟨hat, hbefore⟩ := ih (by simpa [hm] using hf)
          refine ⟨hat, fun m hp hlt => ?_⟩
          rcases Nat.eq_or_lt_of_le hp with rfl | hp
          · exact hm
          · exact hbefore m hp hlt

theorem matchAt_of_find {h : Hit} (hf : a.find hay p = some h) :
    a.matchAt hay h.start = some h ∧ ∀ m, p ≤ m → m < h.start → a.matchAt hay m = none :=
  matchAt_of_findWithin (find_eq_findWithin a hay p ▸ hf)

theorem find_eq_none_iff :
    a.find hay p = none ↔ ∀ m, p ≤ m → m ≤ hay.size → a.matchAt hay m = none := by
  rw [find_eq_findWithin, findWithin_eq_none_iff]
  exact forall_congr' fun m => by
    constructor <;> intro h hp hm <;> exact h hp (by omega)

/-! ### Tokens -/

/-- The token of the match at a place, if there is a match and its token is not empty. -/
def tokenAt (a : Pattern) (hay : Array Char) (m : Nat) : Option Found :=
  match a.matchAt hay m with
  | none => none
  | some h =>
      if h.token.start < h.token.stop then some ⟨h.start, h.token.start, h.token.stop⟩ else none

theorem tokenAt_eq_none_iff {m : Nat} :
    a.tokenAt hay m = none ↔ ∀ h, a.matchAt hay m = some h → h.token.stop ≤ h.token.start := by
  unfold tokenAt
  cases a.matchAt hay m with
  | none => simp
  | some h => simp

theorem tokenAt_eq_some_iff {m : Nat} {f : Found} :
    a.tokenAt hay m = some f ↔ ∃ h, a.matchAt hay m = some h ∧ h.token.start < h.token.stop ∧
      f = ⟨h.start, h.token.start, h.token.stop⟩ := by
  unfold tokenAt
  cases a.matchAt hay m with
  | none => simp
  | some h => simp [eq_comm]

/-- The first place at or after `p` with a token gives what is found, or there is no such place. -/
def FirstToken (a : Pattern) (hay : Array Char) (p : Nat) : Option Found → Prop
  | none => ∀ m, p ≤ m → m ≤ hay.size → a.tokenAt hay m = none
  | some f => p ≤ f.matchStart ∧ f.matchStart ≤ hay.size ∧ a.tokenAt hay f.matchStart = some f ∧
      ∀ m, p ≤ m → m < f.matchStart → a.tokenAt hay m = none

theorem FirstToken.eq {f? g? : Option Found} (hf : FirstToken a hay p f?)
    (hg : FirstToken a hay p g?) : f? = g? := by
  cases f? with
  | none =>
      cases g? with
      | none => rfl
      | some g =>
          obtain ⟨hp, hsize, hat, -⟩ := hg
          simp [hf _ hp hsize] at hat
  | some f =>
      obtain ⟨hp, hsize, hat, hbefore⟩ := hf
      cases g? with
      | none => simp [hg _ hp hsize] at hat
      | some g =>
          obtain ⟨hp', -, hat', hbefore'⟩ := hg
          rcases Nat.lt_trichotomy f.matchStart g.matchStart with hlt | heq | hlt
          · simp [hbefore' _ hp hlt] at hat
          · rw [← hat, ← hat', heq]
          · simp [hbefore _ hp' hlt] at hat'

/-- Places without a token may be put in front. -/
theorem FirstToken.widen {f? : Option Found} (h : FirstToken a hay q f?)
    (hbefore : ∀ m, p ≤ m → m < q → a.tokenAt hay m = none) (hpq : p ≤ q) :
    FirstToken a hay p f? := by
  have hmore : ∀ m, p ≤ m → (q ≤ m → a.tokenAt hay m = none) → a.tokenAt hay m = none := by
    intro m hp hrest
    rcases Nat.lt_or_ge m q with hlt | hge
    · exact hbefore m hp hlt
    · exact hrest hge
  cases f? with
  | none => exact fun m hp hm => hmore m hp fun hq => h m hq hm
  | some f =>
      obtain ⟨hq, hsize, hat, hrest⟩ := h
      exact ⟨Nat.le_trans hpq hq, hsize, hat, fun m hp hlt => hmore m hp fun hq => hrest m hq hlt⟩

theorem firstToken_findTokenWithin (a : Pattern) (hay : Array Char) (fuel p : Nat)
    (hfuel : hay.size + 1 ≤ fuel + p) : FirstToken a hay p (a.findTokenWithin hay fuel p) := by
  induction fuel generalizing p with
  | zero => exact fun m hp hm => absurd hm (by omega)
  | succ fuel ih =>
      rw [findTokenWithin]
      split
      · exact fun m hp hm => absurd hm (by omega)
      · cases hfind : a.find hay p with
        | none =>
            intro m hp hm
            simp [tokenAt, find_eq_none_iff.mp hfind m hp hm]
        | some h =>
            obtain ⟨hstart, hstop, hway⟩ := find_eq_some hfind
            obtain ⟨hat, hbefore⟩ := matchAt_of_find hfind
            have hnone : ∀ m, p ≤ m → m < h.start → a.tokenAt hay m = none :=
              fun m hp hlt => by simp [tokenAt, hbefore m hp hlt]
            have hle : h.start ≤ hay.size := Nat.le_trans hway.le hstop
            dsimp only
            split
            · rename_i htoken
              exact ⟨hstart, hle, by simp [tokenAt, hat, htoken], hnone⟩
            · -- the search goes on behind the start of a match without a token
              rename_i hempty
              refine (ih (h.start + 1) (by omega)).widen (fun m hp hlt => ?_) (by omega)
              rcases Nat.eq_or_lt_of_le (Nat.le_of_lt_succ hlt) with rfl | hlt
              · simp [tokenAt, hat, hempty]
              · exact hnone m hp hlt

theorem firstToken_findToken (a : Pattern) (hay : Array Char) (p : Nat) :
    FirstToken a hay p (a.findToken hay p) :=
  firstToken_findTokenWithin a hay _ p (by omega)

theorem firstToken_of_findToken {f? : Option Found} (h : a.findToken hay p = f?) :
    FirstToken a hay p f? :=
  h ▸ firstToken_findToken a hay p

theorem le_matchStart_of_findToken {f : Found} (h : a.findToken hay p = some f) :
    p ≤ f.matchStart :=
  (firstToken_of_findToken h).1

/-- A search finds again what it found from an earlier place, up to the start of that match. -/
theorem findToken_of_le {f : Found} (h : a.findToken hay p = some f) (hpq : p ≤ q)
    (hq : q ≤ f.matchStart) : a.findToken hay q = some f := by
  obtain ⟨-, hsize, hat, hbefore⟩ := firstToken_of_findToken h
  have hfirst : FirstToken a hay q (some f) :=
    ⟨hq, hsize, hat, fun m hm hlt => hbefore m (Nat.le_trans hpq hm) hlt⟩
  exact (firstToken_findToken a hay q).eq hfirst

theorem findToken_eq_none_of_le (h : a.findToken hay p = none) (hpq : p ≤ q) :
    a.findToken hay q = none := by
  have hnone := firstToken_of_findToken h
  have hlater : FirstToken a hay q none := fun m hm hsize => hnone m (Nat.le_trans hpq hm) hsize
  exact (firstToken_findToken a hay q).eq hlater

/-- A place with a token makes a search from an earlier place find one that starts no later. -/
theorem exists_findToken {m : Nat} {f : Found} (h : a.tokenAt hay m = some f) (hpm : p ≤ m)
    (hm : m ≤ hay.size) : ∃ g, a.findToken hay p = some g ∧ g.matchStart ≤ m := by
  cases hfind : a.findToken hay p with
  | none => simp [firstToken_of_findToken hfind m hpm hm] at h
  | some g =>
      obtain ⟨-, -, -, hbefore⟩ := firstToken_of_findToken hfind
      refine ⟨g, rfl, Nat.le_of_not_lt fun hlt => ?_⟩
      simp [hbefore m hpm hlt] at h

/-! ### Patterns without a token group -/

theorem Way.token_eq_of_not_hasToken {t u : Option Span} (h : Way hay a p t q u)
    (ha : a.hasToken = false) : u = t := by
  induction h with
  | empty | char | look | stretch => rfl
  | seq _ _ iha ihb =>
      simp only [hasToken, Bool.or_eq_false_iff] at ha
      rw [ihb ha.2, iha ha.1]
  | left _ ih =>
      simp only [hasToken, Bool.or_eq_false_iff] at ha
      exact ih ha.1
  | right _ ih =>
      simp only [hasToken, Bool.or_eq_false_iff] at ha
      exact ih ha.2
  | token => simp [hasToken] at ha
  | once _ ih | last _ ih => exact ih ha
  | more _ _ iha ihm => rw [ihm ha, iha ha]

theorem token_eq_whole {h : Hit} (hnone : h.token? = none) : h.token = ⟨h.start, h.stop⟩ := by
  rw [Hit.token, hnone, Option.getD_none]

/-- Without a token group the token is all that the pattern takes up. -/
theorem way_of_tokenAt {m : Nat} {f : Found} (ha : a.hasToken = false)
    (h : a.tokenAt hay m = some f) :
    f = ⟨m, m, f.stop⟩ ∧ m < f.stop ∧ Way hay a m none f.stop none := by
  obtain ⟨hit, hm, hlt, rfl⟩ := tokenAt_eq_some_iff.mp h
  obtain ⟨rfl, hway⟩ := matchAt_eq_some hm
  have htoken : hit.token? = none := hway.token_eq_of_not_hasToken ha
  rw [htoken] at hway
  rw [token_eq_whole htoken] at hlt ⊢
  exact ⟨rfl, hlt, hway⟩

theorem start_of_tokenAt {m : Nat} {f : Found} (ha : a.hasToken = false)
    (h : a.tokenAt hay m = some f) : f.start = m :=
  congrArg Found.start (way_of_tokenAt ha h).1

theorem start_of_findToken {f : Found} (ha : a.hasToken = false)
    (h : a.findToken hay p = some f) : f.start = f.matchStart := by
  obtain ⟨-, -, hat, -⟩ := firstToken_of_findToken h
  exact start_of_tokenAt ha hat

end Highlight.Pattern
