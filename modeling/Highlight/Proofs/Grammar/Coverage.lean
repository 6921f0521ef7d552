import Highlight.Proofs.Grammar.Limits
import Mathlib.Data.List.Infix

/-!
# What tokens cover

Under labels a scan leaves no character out: what it skips gets the labels around it or is handed to
the root, and what it takes is one token or is scanned again under one more label.  So the tokens of
a nested scan tile its stretch, and in a scan that succeeds every match is tiled by tokens that
carry the labels around it and its own.  Only a scan without labels leaves anything out, and only
between its matches.
-/

namespace Highlight

/-- Whether the token covers the character at a place. -/
def Token.covers (i : Nat) (t : Token) : Bool := t.start ≤ i && i < t.stop

theorem Token.covers_iff {i : Nat} {t : Token} : t.covers i = true ↔ t.start ≤ i ∧ i < t.stop := by
  simp [covers]

/-- The tokens follow one another without a gap, from one place to another. -/
def Tiled : Nat → List Token → Nat → Prop
  | start, [], stop => start = stop
  | start, t :: ts, stop => t.start = start ∧ t.start < t.stop ∧ Tiled t.stop ts stop

namespace Tiled

variable {start mid stop i : Nat} {ts us : List Token}

theorem append (h : Tiled start ts mid) (h' : Tiled mid us stop) : Tiled start (ts ++ us) stop := by
  induction ts generalizing start with
  | nil =>
      obtain rfl : start = mid := h
      exact h'
  | cons t ts ih =>
      obtain ⟨hstart, hlt, hrest⟩ := h
      exact ⟨hstart, hlt, ih hrest⟩

theorem single {labels : List String} (h : start < stop) :
    Tiled start [⟨start, stop, labels⟩] stop :=
  ⟨rfl, h, rfl⟩

theorem inside (h : Tiled start ts stop) :
    start ≤ stop ∧ ∀ t ∈ ts, start ≤ t.start ∧ t.stop ≤ stop := by
  induction ts generalizing start with
  | nil =>
      obtain rfl : start = stop := h
      simp
  | cons t ts ih =>
      obtain ⟨rfl, hlt, hrest⟩ := h
      obtain ⟨hle, hinside⟩ := ih hrest
      refine ⟨by omega, List.forall_mem_cons.mpr ⟨⟨Nat.le_refl _, hle⟩, fun u hu => ?_⟩⟩
      have hu' := hinside u hu
      omega

theorem exists_covers (h : Tiled start ts stop) (hi : start ≤ i) (hlt : i < stop) :
    ∃ t ∈ ts, t.covers i = true := by
  induction ts generalizing start with
  | nil =>
      obtain rfl : start = stop := h
      omega
  | cons t ts ih =>
      obtain ⟨rfl, -, hrest⟩ := h
      by_cases hcov : i < t.stop
      · exact ⟨t, List.mem_cons_self, Token.covers_iff.mpr ⟨hi, hcov⟩⟩
      · obtain ⟨u, hu, hcovers⟩ := ih hrest (by omega)
        exact ⟨u, List.mem_cons_of_mem t hu, hcovers⟩

end Tiled

/-- The tokens stand apart from one another. -/
def Apart (ts : List Token) : Prop := ts.Pairwise fun t u => t.stop ≤ u.start

namespace Apart

variable {i : Nat} {t u : Token} {ts : List Token}

theorem eq_of_covers (h : Apart ts) (ht : t ∈ ts) (hu : u ∈ ts) (hti : t.covers i = true)
    (hui : u.covers i = true) : t = u := by
  rw [Token.covers_iff] at hti hui
  induction ts with
  | nil => simp at ht
  | cons v ts ih =>
      obtain ⟨hv, hrest⟩ := List.pairwise_cons.mp h
      rcases List.mem_cons.mp ht with rfl | ht'
      · rcases List.mem_cons.mp hu with rfl | hu'
        · rfl
        · have hle := hv u hu'
          omega
      · rcases List.mem_cons.mp hu with rfl | hu'
        · have hle := hv t ht'
          omega
        · exact ih hrest ht' hu'

theorem countP_covers (h : Apart ts) (ht : t ∈ ts) (hti : t.covers i = true) :
    ts.countP (Token.covers i) = 1 := by
  induction ts with
  | nil => simp at ht
  | cons v ts ih =>
      obtain ⟨hv, hrest⟩ := List.pairwise_cons.mp h
      by_cases hvi : v.covers i = true
      · rw [List.countP_cons_of_pos hvi, List.countP_eq_zero.mpr]
        intro u hu hui
        have hle := hv u hu
        rw [Token.covers_iff] at hvi hui
        omega
      · rw [List.countP_cons_of_neg hvi]
        rcases List.mem_cons.mp ht with rfl | ht'
        · exact absurd hti hvi
        · exact ih hrest ht'

end Apart

namespace RuleTree

/-- Tokens that tile a stretch are added, and each of them starts with the labels. -/
def Adds (start stop : Nat) (labels : List String) (out out' : Array Token) : Prop :=
  ∃ ts, out'.toList = out.toList ++ ts ∧ Tiled start ts stop ∧ ∀ t ∈ ts, labels <+: t.labels

namespace Adds

variable {start mid stop : Nat} {labels labels' : List String} {out out' out'' : Array Token}

theorem nothing (start : Nat) (labels : List String) (out : Array Token) :
    Adds start start labels out out :=
  ⟨[], by simp, rfl, by simp⟩

theorem trans (h : Adds start mid labels out out') (h' : Adds mid stop labels out' out'') :
    Adds start stop labels out out'' := by
  obtain ⟨ts, hout, htiled, hlabels⟩ := h
  obtain ⟨us, hout', htiled', hlabels'⟩ := h'
  refine ⟨ts ++ us, by rw [hout', hout, List.append_assoc], htiled.append htiled', ?_⟩
  intro t ht
  exact (List.mem_append.mp ht).elim (hlabels t) (hlabels' t)

theorem under (h : Adds start stop labels' out out') (hlabels : labels <+: labels') :
    Adds start stop labels out out' := by
  obtain ⟨ts, hout, htiled, hmore⟩ := h
  exact ⟨ts, hout, htiled, fun t ht => hlabels.trans (hmore t ht)⟩

theorem emit {limits : Limits} (hlt : start < stop)
    (h : emit limits ⟨start, stop, labels⟩ out = .ok out') : Adds start stop labels out out' := by
  unfold RuleTree.emit at h
  split at h
  · simp at h
  · obtain rfl := Except.ok.inj h
    exact ⟨[⟨start, stop, labels⟩], by simp, .single hlt, by simp⟩

end Adds

/-! ### Scans that leave nothing out -/

variable {root tree : RuleGrammar} {limits : Limits} {descend : Descend} {hay : Array Char}
  {base fuel levels p q : Nat} {labels : List String} {out out' : Array Token}

/-- A scan leaves nothing out when there are labels around it, or when it hands what it skips to a
root that does so, too. -/
def Thorough (root tree : RuleGrammar) (labels : List String) : Prop :=
  labels ≠ [] ∨ (tree.restToRoot = true ∧ root.restToRoot = true)

/-- Nested scans that leave nothing out tile the text they are given. -/
def Tiles (root : RuleGrammar) (descend : Descend) : Prop :=
  ∀ tree hay base labels out out', Thorough root tree labels →
    descend tree hay base labels out = .ok out' → Adds base (base + hay.size) labels out out'

theorem Tiles.extract (h : Tiles root descend) (hthorough : Thorough root tree labels) (hpq : p ≤ q)
    (hq : q ≤ hay.size) (hok : descend tree (hay.extract p q) (base + p) labels out = .ok out') :
    Adds (base + p) (base + q) labels out out' := by
  have hsize : base + p + (hay.extract p q).size = base + q := by
    rw [Array.size_extract]
    omega
  exact hsize ▸ h tree (hay.extract p q) (base + p) labels out out' hthorough hok

theorem Tiles.gap (h : Tiles root descend) (hthorough : Thorough root tree labels) (hpq : p ≤ q)
    (hq : q ≤ hay.size)
    (hok : gap root limits descend tree hay base labels p q out = .ok out') :
    Adds (base + p) (base + q) labels out out' := by
  unfold RuleTree.gap at hok
  split at hok
  · obtain rfl : p = q := by omega
    obtain rfl := Except.ok.inj hok
    exact .nothing _ _ _
  · split at hok
    · rename_i hrest
      exact h.extract (hthorough.imp_right fun hroot => ⟨hroot.2, hroot.2⟩) hpq hq hok
    · rename_i hlt hrest
      have hlabels : labels ≠ [] := hthorough.resolve_right fun hroot => hrest hroot.1
      rw [if_neg (by simpa using hlabels)] at hok
      exact .emit (by omega) hok

theorem Tiles.take (h : Tiles root descend) {r : Rule Pattern} {f : Found} (hf : f.Fits p hay.size)
    (hok : take root limits descend hay base labels r f out = .ok out') :
    Adds (base + f.start) (base + f.stop) (labels ++ [r.label]) out out' := by
  obtain ⟨-, hlt, hstop⟩ := hf
  have hthorough : ∀ tree, Thorough root tree (labels ++ [r.label]) := fun tree => Or.inl (by simp)
  unfold RuleTree.take at hok
  dsimp only at hok
  split at hok
  · exact .emit (by omega) hok
  · exact h.extract (hthorough _) (Nat.le_of_lt hlt) hstop hok
  · exact h.extract (hthorough root) (Nat.le_of_lt hlt) hstop hok

theorem Tiles.scanFrom (h : Tiles root descend) (hthorough : Thorough root tree labels)
    {rs : List Tracked} (hreach : Reaches tree hay rs p)
    (hok : scanFrom root limits descend tree hay base labels fuel rs p out = .ok out') :
    Adds (base + p) (base + hay.size) labels out out' := by
  induction fuel generalizing rs p out with
  | zero => exact h.gap hthorough hreach.fit.2 (Nat.le_refl _) hok
  | succ fuel ih =>
      cases hbest : earliest (advanceAll hay p rs) with
      | none =>
          rw [scanFrom_eq_gap hbest] at hok
          exact h.gap hthorough hreach.fit.2 (Nat.le_refl _) hok
      | some best =>
          obtain ⟨r, f⟩ := best
          have hfits : f.Fits p hay.size := Takes.fits ⟨rs, hreach, hbest⟩
          obtain ⟨out₁, out₂, hgap, htake, hrest⟩ := scanFrom_eq_ok hbest hok
          have hbefore : f.start ≤ hay.size := by
            obtain ⟨-, hlt, hstop⟩ := hfits
            omega
          have htaken : Adds (base + f.start) (base + f.stop) labels out₁ out₂ :=
            (h.take hfits htake).under (List.prefix_append _ _)
          have hfront := (h.gap hthorough hfits.1 hbefore hgap).trans htaken
          exact hfront.trans (ih (hreach.next hbest) hrest)

theorem tiles_scan (root : RuleGrammar) (limits : Limits) (levels : Nat) :
    Tiles root (scan root limits levels) := by
  induction levels with
  | zero =>
      intro tree hay base labels out out' _ hok
      simp [scan] at hok
  | succ levels ih =>
      intro tree hay base labels out out' hthorough hok
      exact ih.scanFrom hthorough .start hok

/-! ### Scans of a scan that succeeds -/

section

variable {s t : Stretch} {r : Rule Pattern} {f : Found} {tokens : List Token}

/-- The scan of the stretch is a part of one that ends with the tokens. -/
def Stretch.Done (root : RuleGrammar) (limits : Limits) (tokens : List Token) (s : Stretch) :
    Prop :=
  ∃ levels out out', s.scan root limits levels out = .ok out' ∧ out'.toList <+: tokens

theorem Reaches.exists_scanFrom {rs : List Tracked} (hreach : Reaches tree hay rs p)
    (h : RuleTree.scan root limits (levels + 1) tree hay base labels out = .ok out') :
    ∃ fuel out₁, hay.size < fuel + p ∧
      RuleTree.scanFrom root limits (RuleTree.scan root limits levels) tree hay base labels fuel
        rs p out₁ = .ok out' := by
  induction hreach with
  | start => exact ⟨hay.size + 1, out, by omega, h⟩
  | @next rs p r f hreach hbest ih =>
      obtain ⟨fuel, out₁, hfuel, hscan⟩ := ih
      obtain ⟨hp, hlt, hstop⟩ : f.Fits p hay.size := Takes.fits ⟨rs, hreach, hbest⟩
      obtain ⟨fuel, rfl⟩ : ∃ n, fuel = n + 1 := ⟨fuel - 1, by omega⟩
      obtain ⟨-, out₂, -, -, hrest⟩ := scanFrom_eq_ok hbest hscan
      exact ⟨fuel, out₂, by omega, hrest⟩

/-- Each match that a scan takes was dealt with if the scan succeeds, and so was the text in front
of it. -/
theorem Takes.exists_take (htakes : Takes tree hay p r f)
    (h : RuleTree.scan root limits (levels + 1) tree hay base labels out = .ok out') :
    ∃ out₁ out₂ out₃,
      RuleTree.gap root limits (RuleTree.scan root limits levels) tree hay base labels p f.start
        out₁ = .ok out₂ ∧
      RuleTree.take root limits (RuleTree.scan root limits levels) hay base labels r f out₂ =
        .ok out₃ ∧
      out₂.toList <+: out₃.toList ∧ out₃.toList <+: out'.toList := by
  obtain ⟨rs, hreach, hbest⟩ := htakes
  obtain ⟨fuel, out₁, hfuel, hscan⟩ := hreach.exists_scanFrom h
  have hfits : f.Fits p hay.size := Takes.fits ⟨rs, hreach, hbest⟩
  obtain ⟨fuel, rfl⟩ : ∃ n, fuel = n + 1 := ⟨fuel - 1, by have := hreach.fit.2; omega⟩
  obtain ⟨out₂, out₃, hgap, htake, hrest⟩ := scanFrom_eq_ok hbest hscan
  have hgrows := (deed_grows limits).take ((deed_grows limits).scan root levels) hfits out₃ htake
  exact ⟨out₁, out₂, out₃, hgap, htake, hgrows,
    grows_scanFrom root limits levels fuel (hreach.next hbest) out₃ out' hrest⟩

theorem Skips.exists_gap (hskips : Skips tree hay p q)
    (h : RuleTree.scan root limits (levels + 1) tree hay base labels out = .ok out') :
    ∃ out₁ out₂,
      RuleTree.gap root limits (RuleTree.scan root limits levels) tree hay base labels p q out₁ =
        .ok out₂ ∧ out₂.toList <+: out'.toList := by
  cases hskips with
  | before htakes =>
      obtain ⟨out₁, out₂, out₃, hgap, -, hfirst, hrest⟩ := htakes.exists_take h
      exact ⟨out₁, out₂, hgap, hfirst.trans hrest⟩
  | last hreach hnone =>
      obtain ⟨fuel, out₁, hfuel, hscan⟩ := hreach.exists_scanFrom h
      obtain ⟨fuel, rfl⟩ : ∃ n, fuel = n + 1 := ⟨fuel - 1, by have := hreach.fit.2; omega⟩
      rw [scanFrom_eq_gap hnone] at hscan
      exact ⟨out₁, out', hscan, List.prefix_rfl⟩

theorem Stretch.Done.exists_levels (h : s.Done root limits tokens) :
    ∃ levels out out', s.scan root limits (levels + 1) out = .ok out' ∧ out'.toList <+: tokens := by
  obtain ⟨levels, out, out', hscan, hprefix⟩ := h
  cases levels with
  | zero => simp [Stretch.scan, RuleTree.scan] at hscan
  | succ levels => exact ⟨levels, out, out', hscan, hprefix⟩

theorem Enters.done (h : Enters root s t) (hs : s.Done root limits tokens) :
    t.Done root limits tokens := by
  obtain ⟨levels, out, out', hscan, hprefix⟩ := hs.exists_levels
  cases h with
  | nested htakes hinside =>
      obtain ⟨-, out₂, out₃, -, htake, -, hmore⟩ := htakes.exists_take hscan
      simp only [RuleTree.take, hinside] at htake
      exact ⟨levels, out₂, out₃, htake, hmore.trans hprefix⟩
  | again htakes hinside =>
      obtain ⟨-, out₂, out₃, -, htake, -, hmore⟩ := htakes.exists_take hscan
      simp only [RuleTree.take, hinside] at htake
      exact ⟨levels, out₂, out₃, htake, hmore.trans hprefix⟩
  | rest hskips hpq hrest =>
      obtain ⟨out₁, out₂, hgap, hmore⟩ := hskips.exists_gap hscan
      rw [RuleTree.gap, if_neg (by omega), if_pos hrest] at hgap
      exact ⟨levels, out₁, out₂, hgap, hmore.trans hprefix⟩

theorem Visits.done (h : Visits root s t) (hs : s.Done root limits tokens) :
    t.Done root limits tokens := by
  induction h with
  | here => exact hs
  | further _ ht ih => exact ht.done ih

theorem Takes.exists_tiled (htakes : Takes s.tree s.hay p r f) (hs : s.Done root limits tokens) :
    ∃ ts, ts ⊆ tokens ∧ Tiled (s.base + f.start) ts (s.base + f.stop) ∧
      ∀ t ∈ ts, s.labels ++ [r.label] <+: t.labels := by
  obtain ⟨levels, out, out', hscan, hprefix⟩ := hs.exists_levels
  obtain ⟨-, out₂, out₃, -, htake, -, hmore⟩ := htakes.exists_take hscan
  obtain ⟨ts, hout, htiled, hlabels⟩ := (tiles_scan root limits levels).take htakes.fits htake
  refine ⟨ts, fun t ht => (hmore.trans hprefix).subset ?_, htiled, hlabels⟩
  rw [hout]
  exact List.mem_append_right _ ht

/-- Without labels and rest, a scan adds tokens inside the matches it takes only. -/
theorem exists_takes_of_mem (hrest : tree.restToRoot = false) {rs : List Tracked}
    (hreach : Reaches tree hay rs p)
    (h : RuleTree.scanFrom root limits (RuleTree.scan root limits levels) tree hay base [] fuel rs p
      out = .ok out') :
    ∀ t ∈ out'.toList, t ∈ out.toList ∨
      ∃ p r f, Takes tree hay p r f ∧ base + f.start ≤ t.start ∧ t.stop ≤ base + f.stop := by
  have hgap : ∀ {q out₁ out₂}, RuleTree.gap root limits (RuleTree.scan root limits levels) tree hay
      base [] p q out₁ = .ok out₂ → out₁ = out₂ := by
    intro q out₁ out₂ hok
    simpa [RuleTree.gap, hrest] using hok
  induction fuel generalizing rs p out with
  | zero =>
      obtain rfl := hgap h
      exact fun t ht => Or.inl ht
  | succ fuel ih =>
      cases hbest : earliest (advanceAll hay p rs) with
      | none =>
          rw [scanFrom_eq_gap hbest] at h
          obtain rfl := hgap h
          exact fun t ht => Or.inl ht
      | some best =>
          obtain ⟨r, f⟩ := best
          have htakes : Takes tree hay p r f := ⟨rs, hreach, hbest⟩
          obtain ⟨out₁, out₂, hfront, htake, hnext⟩ := scanFrom_eq_ok hbest h
          obtain rfl := hgap hfront
          obtain ⟨ts, hout, htiled, -⟩ := (tiles_scan root limits levels).take htakes.fits htake
          intro t ht
          rcases ih (hreach.next hbest) hnext (by simp [RuleTree.gap, hrest]) t ht with ht | hlater
          · rw [hout] at ht
            rcases List.mem_append.mp ht with ht | ht
            · exact Or.inl ht
            · exact Or.inr ⟨p, r, f, htakes, htiled.inside.2 t ht⟩
          · exact Or.inr hlater

end

theorem done_whole {text : String} {tokens : List Token}
    (h : root.tokenize text limits = .ok tokens) :
    ∃ out, (whole root text).scan root limits (limits.maxDepth + 1) #[] = .ok out ∧
      out.toList = tokens := by
  unfold tokenize at h
  split at h
  · simp at h
  · rename_i out hout
    exact ⟨out, hout, Except.ok.inj h⟩

section

variable {text : String} {tokens : List Token}

/-- A token that shares a character with a match that a nested scan takes lies inside it and carries
its labels, and there is exactly one on each of its characters. -/
theorem match_tiled (h : root.tokenize text limits = .ok tokens) {s : Stretch}
    (hs : Visits root (whole root text) s) {r : Rule Pattern} {f : Found}
    (htakes : Takes s.tree s.hay p r f) :
    (∀ i, s.base + f.start ≤ i → i < s.base + f.stop → tokens.countP (Token.covers i) = 1) ∧
    ∀ t ∈ tokens, t.start < s.base + f.stop → s.base + f.start < t.stop →
      s.base + f.start ≤ t.start ∧ t.stop ≤ s.base + f.stop ∧
        s.labels ++ [r.label] <+: t.labels := by
  obtain ⟨out, hscan, hout⟩ := done_whole h
  have hdone : (whole root text).Done root limits tokens :=
    ⟨_, _, out, hscan, hout ▸ List.prefix_rfl⟩
  obtain ⟨ts, hts, htiled, hlabels⟩ := htakes.exists_tiled (hs.done hdone)
  have hlaid := (laid_of_tokenize h).1
  refine ⟨fun i hi hlt => ?_, fun t ht hbefore hbehind => ?_⟩
  · obtain ⟨t, ht, hcovers⟩ := htiled.exists_covers hi hlt
    exact Apart.countP_covers hlaid.apart (hts ht) hcovers
  · have hpos := (hlaid.inside t ht).2.1
    -- The first character that the token and the match share has a token of the match.
    have hshared : max t.start (s.base + f.start) < s.base + f.stop :=
      Nat.max_lt.mpr ⟨hbefore, by have := htakes.fits.2.1; omega⟩
    obtain ⟨u, hu, hcovers⟩ := htiled.exists_covers (Nat.le_max_right t.start _) hshared
    have htcovers : t.covers (max t.start (s.base + f.start)) = true :=
      Token.covers_iff.mpr ⟨Nat.le_max_left _ _, Nat.max_lt.mpr ⟨hpos, hbehind⟩⟩
    obtain rfl := Apart.eq_of_covers hlaid.apart ht (hts hu) htcovers hcovers
    exact ⟨(htiled.inside.2 t hu).1, (htiled.inside.2 t hu).2, hlabels t hu⟩

theorem uncovered_iff (h : root.tokenize text limits = .ok tokens) (hrest : root.restToRoot = false)
    (i : Nat) :
    (∀ t ∈ tokens, t.covers i = false) ↔
      ∀ p r f, Takes root text.toList.toArray p r f → ¬ (f.start ≤ i ∧ i < f.stop) := by
  constructor
  · rintro hnone p r f htakes ⟨hi, hlt⟩
    have hcount := (match_tiled h (.here) htakes).1 i (by simpa [whole] using hi)
      (by simpa [whole] using hlt)
    have hzero : tokens.countP (Token.covers i) = 0 :=
      List.countP_eq_zero.mpr fun t ht => by simp [hnone t ht]
    omega
  · intro houtside t ht
    obtain ⟨out, hscan, hout⟩ := done_whole h
    rw [Bool.eq_false_iff]
    intro hcovers
    obtain ⟨hi, hlt⟩ := Token.covers_iff.mp hcovers
    rcases exists_takes_of_mem hrest .start hscan t (hout ▸ ht) with
      hnew | ⟨p, r, f, htakes, hle, hge⟩
    · simp at hnew
    · simp only [whole, Nat.zero_add] at hle hge
      exact houtside p r f htakes ⟨by omega, by omega⟩

theorem covered_of_restToRoot (h : root.tokenize text limits = .ok tokens)
    (hrest : root.restToRoot = true) {i : Nat} (hi : i < text.length) :
    ∃ t ∈ tokens, t.covers i = true := by
  obtain ⟨out, hscan, hout⟩ := done_whole h
  have hthorough : Thorough root root [] := Or.inr ⟨hrest, hrest⟩
  obtain ⟨ts, hadded, htiled, -⟩ := tiles_scan root limits _ root _ _ _ _ out hthorough hscan
  obtain rfl : ts = tokens := by simpa [hout] using hadded.symm
  exact htiled.exists_covers (Nat.zero_le i) (by simpa [whole, String.length_toList] using hi)

end

/-- Nested scans lose no character, and labels pile up from the root inwards.  Each match that a
nested scan takes is tiled by tokens: there is exactly one on each of its characters, none reaches
across its edges, and all carry the labels around the match and then its own.  If the root does not
hand on what lies between its matches, just that is left out, and otherwise nothing is. -/
theorem matches_tiled_under_their_labels (root : RuleGrammar) (text : String) (limits : Limits)
    (tokens : List Token) (h : root.tokenize text limits = .ok tokens) :
    (∀ s, Visits root (whole root text) s → ∀ p r f, Takes s.tree s.hay p r f →
      (∀ i, s.base + f.start ≤ i → i < s.base + f.stop → tokens.countP (Token.covers i) = 1) ∧
      ∀ t ∈ tokens, t.start < s.base + f.stop → s.base + f.start < t.stop →
        s.base + f.start ≤ t.start ∧ t.stop ≤ s.base + f.stop ∧
          s.labels ++ [r.label] <+: t.labels) ∧
    (root.restToRoot = false → ∀ i < text.length, (∀ t ∈ tokens, t.covers i = false) ↔
      ∀ p r f, Takes root text.toList.toArray p r f → ¬ (f.start ≤ i ∧ i < f.stop)) ∧
    (root.restToRoot = true → ∀ i < text.length, ∃ t ∈ tokens, t.covers i = true) :=
  ⟨fun _ hs _ _ _ htakes => match_tiled h hs htakes, fun hrest i _ => uncovered_iff h hrest i,
    fun hrest _ hi => covered_of_restToRoot h hrest hi⟩

/-- A digit in brackets, classified by a tree for digits. -/
def bracketedDigit : RuleGrammar :=
  (named "brackets").nest "list"
    (.concat [.char (.single '['), .char (.range '0' '9'), .char (.single ']')])
    ((named "digits").rule "digit" (.char (.range '0' '9')))

theorem brackets_around_digit :
    let tokens := [⟨1, 2, ["list"]⟩, ⟨2, 3, ["list", "digit"]⟩, ⟨3, 4, ["list"]⟩]
    bracketedDigit.tokenize "a[1]" {} = .ok tokens ∧
      ∃ p r f, Takes bracketedDigit "a[1]".toList.toArray p r f ∧ f.stop = 4 ∧
        tokens.countP (Token.covers 3) = 1 := by
  intro tokens
  have htokens : bracketedDigit.tokenize "a[1]" {} = .ok tokens := by decide +kernel
  have hround : (earliest (advanceAll "a[1]".toList.toArray 0
      (bracketedDigit.rules.map fun r => (r, .unsearched)))).map Prod.snd = some ⟨1, 1, 4⟩ := by
    decide +kernel
  obtain ⟨⟨r, f⟩, hbest, rfl⟩ := Option.map_eq_some_iff.mp hround
  have htakes : Takes bracketedDigit "a[1]".toList.toArray 0 r ⟨1, 1, 4⟩ := ⟨_, .start, hbest⟩
  have htiled := (matches_tiled_under_their_labels _ _ _ _ htokens).1 _ .here _ _ _ htakes
  exact ⟨htokens, _, _, _, htakes, rfl, htiled.1 3 (by decide) (by decide)⟩

end RuleTree

end Highlight
