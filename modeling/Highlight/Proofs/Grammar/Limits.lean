import Highlight.Proofs.Grammar.Rounds

/-!
# What limits do to a scan

A scan never looks at its limits to decide what matches, so a scan under smaller limits goes the way
of one under larger limits until it is cut off.  `CutShort` compares the two.  A scan with room for
as many tokens as the text has characters is not cut off by the number of tokens, since no token is
empty.
-/

namespace Highlight.RuleTree

variable {root tree : RuleGrammar} {limits limits' : Limits} {descend descend' : Descend}
  {hay : Array Char} {base p q : Nat} {labels : List String} {out out' : Array Token}

/-! ### Stretches, whatever their labels -/

/-- A relation between a stretch of the text, the tokens before it and what comes of dealing with
it, that each single deed of a scan keeps to and that carries over to deeds one after the other. -/
structure Deed (limits : Limits) (M : Nat → Nat → Array Token → Output → Prop) : Prop where
  nothing : ∀ {a b out}, a ≤ b → M a b out (.ok out)
  emit : ∀ {a b out labels}, a < b → M a b out (emit limits ⟨a, b, labels⟩ out)
  deep : ∀ {a b out}, M a b out (.error (.nestingTooDeep limits.maxDepth))
  trans : ∀ {a m b out out' res}, M a m out (.ok out') → M m b out' res → a ≤ m → m ≤ b →
    M a b out res
  stop : ∀ {a m b out e}, M a m out (.error e) → a ≤ m → m ≤ b → M a b out (.error e)

namespace Deed

variable {M : Nat → Nat → Array Token → Output → Prop}

/-- Nested scans keep to the relation on the text they are given. -/
def Descends (M : Nat → Nat → Array Token → Output → Prop) (descend : Descend) : Prop :=
  ∀ tree hay base labels out, M base (base + hay.size) out (descend tree hay base labels out)

theorem Descends.extract (hd : Descends M descend) (tree : RuleGrammar) (base : Nat)
    (labels : List String) (out : Array Token) (hpq : p ≤ q) (hq : q ≤ hay.size) :
    M (base + p) (base + q) out (descend tree (hay.extract p q) (base + p) labels out) := by
  have hsize : base + p + (hay.extract p q).size = base + q := by
    rw [Array.size_extract]
    omega
  have hdescend := hd tree (hay.extract p q) (base + p) labels out
  rwa [hsize] at hdescend

theorem gap (h : Deed limits M) (hd : Descends M descend) (hpq : p ≤ q) (hq : q ≤ hay.size) :
    M (base + p) (base + q) out (gap root limits descend tree hay base labels p q out) := by
  unfold RuleTree.gap
  split
  · exact h.nothing (by omega)
  · split
    · exact hd.extract root base labels out hpq hq
    · split
      · exact h.nothing (by omega)
      · exact h.emit (by omega)

theorem take (h : Deed limits M) (hd : Descends M descend) {r : Rule Pattern} {f : Found}
    (hf : f.Fits p hay.size) :
    M (base + f.start) (base + f.stop) out (take root limits descend hay base labels r f out) := by
  obtain ⟨-, hlt, hstop⟩ := hf
  unfold RuleTree.take
  split
  · exact h.emit (by omega)
  · exact hd.extract _ base _ out (Nat.le_of_lt hlt) hstop
  · exact hd.extract root base _ out (Nat.le_of_lt hlt) hstop

theorem scanFrom (h : Deed limits M) (hd : Descends M descend) {rs : List Tracked}
    (hreach : Reaches tree hay rs p) (fuel : Nat) (out : Array Token) :
    M (base + p) (base + hay.size) out
      (scanFrom root limits descend tree hay base labels fuel rs p out) := by
  induction fuel generalizing rs p out with
  | zero => exact h.gap hd hreach.fit.2 (Nat.le_refl _)
  | succ fuel ih =>
      cases hbest : earliest (advanceAll hay p rs) with
      | none =>
          rw [scanFrom_eq_gap hbest]
          exact h.gap hd hreach.fit.2 (Nat.le_refl _)
      | some best =>
          obtain ⟨r, f⟩ := best
          obtain ⟨hp, hlt, hstop⟩ : f.Fits p hay.size := Takes.fits ⟨rs, hreach, hbest⟩
          have hbefore : f.start ≤ hay.size := by omega
          have hgap : M (base + p) (base + f.start) out
              (RuleTree.gap root limits descend tree hay base labels p f.start out) :=
            h.gap hd hp hbefore
          rw [scanFrom_eq_bind hbest]
          cases hres : RuleTree.gap root limits descend tree hay base labels p f.start out with
          | error e => exact h.stop (hres ▸ hgap) (by omega) (by omega)
          | ok out₁ =>
              have htake : M (base + f.start) (base + f.stop) out₁
                  (RuleTree.take root limits descend hay base labels r f out₁) :=
                h.take hd ⟨hp, hlt, hstop⟩
              have hfront := h.trans (hres ▸ hgap) htake (by omega) (by omega)
              dsimp only [Except.bind]
              cases hres' : RuleTree.take root limits descend hay base labels r f out₁ with
              | error e => exact h.stop (hres' ▸ hfront) (by omega) (by omega)
              | ok out₂ =>
                  have hrest := ih (hreach.next hbest) out₂
                  exact h.trans (hres' ▸ hfront) hrest (by omega) (by omega)

theorem scan (h : Deed limits M) (root : RuleGrammar) (levels : Nat) :
    Descends M (scan root limits levels) := by
  induction levels with
  | zero => exact fun _ _ _ _ _ => h.deep
  | succ levels ih => exact fun tree hay base labels out => h.scanFrom ih .start _ out

end Deed

/-! ### Tokens are only added -/

/-- The tokens so far stay in front. -/
def Grows (out : Array Token) (res : Output) : Prop :=
  ∀ out', res = .ok out' → out.toList <+: out'.toList

theorem deed_grows (limits : Limits) : Deed limits fun _ _ => Grows where
  nothing := by
    rintro a b out - out' ⟨⟩
    exact List.prefix_rfl
  emit := by
    intro a b out labels _ out' h
    unfold emit at h
    split at h
    · simp at h
    · obtain rfl := Except.ok.inj h
      simp
  deep := by
    rintro a b out out' ⟨⟩
  trans := fun h h' _ _ out'' hres => (h _ rfl).trans (h' out'' hres)
  stop := by
    rintro a m b out e - - - out' ⟨⟩

theorem grows_scanFrom (root : RuleGrammar) (limits : Limits) (levels fuel : Nat)
    {rs : List Tracked} (hreach : Reaches tree hay rs p) (out : Array Token) :
    Grows out (scanFrom root limits (scan root limits levels) tree hay base labels fuel rs p out) :=
  (deed_grows limits).scanFrom ((deed_grows limits).scan root levels) hreach fuel out

/-! ### Room for a token on each character -/

/-- When no more tokens than characters have come before a stretch, no more have come after it, and
there was room for them all if there is room for a token on each character. -/
def Roomy (limits : Limits) (a b : Nat) (out : Array Token) (res : Output) : Prop :=
  out.size ≤ a → b ≤ limits.maxTokens →
    (∀ out', res = .ok out' → out'.size ≤ b) ∧ res ≠ .error (.tooManyTokens limits.maxTokens)

theorem deed_roomy (limits : Limits) : Deed limits (Roomy limits) where
  nothing := by
    rintro a b out hab hsize -
    exact ⟨by rintro out' ⟨⟩; omega, by simp⟩
  emit := by
    intro a b out labels hab hsize hroom
    unfold emit
    rw [if_neg (by omega)]
    refine ⟨?_, by simp⟩
    rintro out' ⟨⟩
    rw [Array.size_push]
    omega
  deep := by
    rintro a b out - -
    exact ⟨by rintro out' ⟨⟩, by simp⟩
  trans := by
    intro a m b out out' res h h' _ hmb hsize hroom
    exact h' ((h hsize (by omega)).1 out' rfl) hroom
  stop := by
    intro a m b out e h _ hmb hsize hroom
    exact ⟨by rintro out' ⟨⟩, (h hsize (by omega)).2⟩

theorem tokenize_ne_tooMany (root : RuleGrammar) {text : String} {limits : Limits}
    (h : text.length ≤ limits.maxTokens) :
    root.tokenize text limits ≠ .error (.tooManyTokens limits.maxTokens) := by
  have hroomy := (deed_roomy limits).scan root (limits.maxDepth + 1) root text.toList.toArray
    0 [] #[]
  have hsize : 0 + text.toList.toArray.size ≤ limits.maxTokens := by
    rwa [Nat.zero_add, List.size_toArray, String.length_toList]
  obtain ⟨-, hne⟩ := hroomy (Nat.le_refl 0) hsize
  unfold tokenize
  split
  · rename_i e he
    rintro ⟨⟩
    exact hne he
  · simp

/-! ### Smaller limits beside larger ones -/

/-- What comes of dealing with a stretch under limits, beside what comes of it under larger limits:
the same, unless a limit was exceeded.  Then more tokens come under the larger limits than were
allowed, if any come; and if the depth is the same, it is exceeded under the larger limits, too. -/
inductive CutShort (limits limits' : Limits) : Output → Output → Prop
  | same (out : Array Token) : CutShort limits limits' (.ok out) (.ok out)
  | tooMany {res' : Output} (h : ∀ out', res' = .ok out' → limits.maxTokens < out'.size) :
      CutShort limits limits' (.error (.tooManyTokens limits.maxTokens)) res'
  | tooDeep {res' : Output}
      (h : limits.maxDepth = limits'.maxDepth → res' = .error (.nestingTooDeep limits.maxDepth)) :
      CutShort limits limits' (.error (.nestingTooDeep limits.maxDepth)) res'

theorem CutShort.bind {res res' : Output} {k k' : Array Token → Output}
    (h : CutShort limits limits' res res') (hk : ∀ out, CutShort limits limits' (k out) (k' out))
    (hgrows : ∀ out, Grows out (k' out)) : CutShort limits limits' (res.bind k) (res'.bind k') := by
  cases h with
  | same out => exact hk out
  | tooMany hmany =>
      refine .tooMany fun out'' hout => ?_
      cases res' with
      | error e => simp [Except.bind] at hout
      | ok out' =>
          have hprefix := (hgrows out' out'' hout).length_le
          have hlt := hmany out' rfl
          simp only [Array.length_toList] at hprefix
          omega
  | tooDeep hdeep =>
      refine .tooDeep fun hdepth => ?_
      rw [hdeep hdepth]
      rfl

theorem cutShort_emit (hmax : limits.maxTokens ≤ limits'.maxTokens) (t : Token)
    (out : Array Token) : CutShort limits limits' (emit limits t out) (emit limits' t out) := by
  unfold emit
  by_cases hfull : limits.maxTokens ≤ out.size
  · rw [if_pos hfull]
    refine .tooMany fun out' hout => ?_
    split at hout
    · simp at hout
    · obtain rfl := Except.ok.inj hout
      rw [Array.size_push]
      omega
  · rw [if_neg hfull, if_neg (by omega)]
    exact .same _

/-- Nested scans under smaller limits are cut short at most. -/
def Shortens (limits limits' : Limits) (descend descend' : Descend) : Prop :=
  ∀ tree hay base labels out,
    CutShort limits limits' (descend tree hay base labels out) (descend' tree hay base labels out)

theorem Shortens.gap (h : Shortens limits limits' descend descend')
    (hmax : limits.maxTokens ≤ limits'.maxTokens) :
    CutShort limits limits' (gap root limits descend tree hay base labels p q out)
      (gap root limits' descend' tree hay base labels p q out) := by
  unfold RuleTree.gap
  split
  · exact .same _
  · split
    · exact h _ _ _ _ _
    · split
      · exact .same _
      · exact cutShort_emit hmax _ _

theorem Shortens.take (h : Shortens limits limits' descend descend')
    (hmax : limits.maxTokens ≤ limits'.maxTokens) (r : Rule Pattern) (f : Found) :
    CutShort limits limits' (take root limits descend hay base labels r f out)
      (take root limits' descend' hay base labels r f out) := by
  unfold RuleTree.take
  split
  · exact cutShort_emit hmax _ _
  · exact h _ _ _ _ _
  · exact h _ _ _ _ _

theorem Shortens.scanFrom (h : Shortens limits limits' descend descend')
    (hmax : limits.maxTokens ≤ limits'.maxTokens)
    (hgrows : Deed.Descends (fun _ _ => Grows) descend') {rs : List Tracked}
    (hreach : Reaches tree hay rs p) (fuel : Nat) (out : Array Token) :
    CutShort limits limits' (scanFrom root limits descend tree hay base labels fuel rs p out)
      (scanFrom root limits' descend' tree hay base labels fuel rs p out) := by
  induction fuel generalizing rs p out with
  | zero => exact h.gap hmax
  | succ fuel ih =>
      cases hbest : earliest (advanceAll hay p rs) with
      | none =>
          rw [scanFrom_eq_gap hbest, scanFrom_eq_gap hbest]
          exact h.gap hmax
      | some best =>
          obtain ⟨r, f⟩ := best
          have hnext := hreach.next hbest
          -- A gap that had too many tokens has too many for the rest of the scan, too, because the
          -- rest only adds tokens.
          have hrest : ∀ out, Grows out
              (RuleTree.scanFrom root limits' descend' tree hay base labels fuel
                (advanceAll hay p rs) f.stop out) :=
            fun out => (deed_grows limits').scanFrom hgrows hnext fuel out
          have hfits : f.Fits p hay.size := Takes.fits ⟨rs, hreach, hbest⟩
          have htake : ∀ out,
              Grows out (RuleTree.take root limits' descend' hay base labels r f out) :=
            fun out => (deed_grows limits').take hgrows hfits
          rw [scanFrom_eq_bind hbest, scanFrom_eq_bind hbest]
          refine (h.gap hmax).bind (fun out => (h.take hmax r f).bind (ih hnext) hrest) ?_
          intro out out'' hout
          cases hres : RuleTree.take root limits' descend' hay base labels r f out with
          | error e => simp [hres, Except.bind] at hout
          | ok out' =>
              exact (htake out out' hres).trans
                (hrest out' out'' (by simpa [hres, Except.bind] using hout))

theorem shortens_scan (root : RuleGrammar) (hmax : limits.maxTokens ≤ limits'.maxTokens)
    {levels levels' : Nat} (hlevels : levels ≤ levels')
    (hsame : limits.maxDepth = limits'.maxDepth → levels = levels') :
    Shortens limits limits' (scan root limits levels) (scan root limits' levels') := by
  induction levels generalizing levels' with
  | zero =>
      intro tree hay base labels out
      refine .tooDeep fun hdepth => ?_
      rw [← hsame hdepth, hdepth]
      rfl
  | succ levels ih =>
      obtain ⟨n, rfl⟩ : ∃ n, levels' = n + 1 := ⟨levels' - 1, by omega⟩
      intro tree hay base labels out
      have hnested : Shortens limits limits' (scan root limits levels) (scan root limits' n) :=
        ih (by omega) fun hdepth => by have := hsame hdepth; omega
      exact hnested.scanFrom hmax ((deed_grows limits').scan root n) .start _ out

theorem tokenize_cutShort (root : RuleGrammar) (text : String) (limits limits' : Limits)
    (hmax : limits.maxTokens ≤ limits'.maxTokens) (hdepth : limits.maxDepth ≤ limits'.maxDepth) :
    root.tokenize text limits = root.tokenize text limits' ∨
      (root.tokenize text limits = .error (.tooManyTokens limits.maxTokens) ∧
        ∀ ts, root.tokenize text limits' = .ok ts → limits.maxTokens < ts.length) ∨
      (root.tokenize text limits = .error (.nestingTooDeep limits.maxDepth) ∧
        (limits.maxDepth = limits'.maxDepth →
          root.tokenize text limits' = .error (.nestingTooDeep limits.maxDepth))) := by
  have hcut := shortens_scan root hmax (Nat.succ_le_succ hdepth)
    (fun h => congrArg Nat.succ h) root text.toList.toArray 0 [] #[]
  unfold tokenize
  generalize scan root limits (limits.maxDepth + 1) root text.toList.toArray 0 [] #[] =
    res at hcut ⊢
  generalize scan root limits' (limits'.maxDepth + 1) root text.toList.toArray 0 [] #[] =
    res' at hcut ⊢
  cases hcut with
  | same out => exact Or.inl rfl
  | tooMany hmany =>
      refine Or.inr (Or.inl ⟨rfl, fun ts hts => ?_⟩)
      cases res' with
      | error e => simp at hts
      | ok out' =>
          obtain rfl : out'.toList = ts := by simpa using hts
          simpa using hmany out' rfl
  | tooDeep hdeep =>
      refine Or.inr (Or.inr ⟨rfl, fun hsame => ?_⟩)
      rw [hdeep hsame]

section

variable {text : String} {depth most most' : Nat} {ts : List Token}

theorem laid_of_tokenize (h : root.tokenize text limits = .ok ts) :
    Laid 0 text.length (limits.maxDepth + 1) ts ∧ ts.length ≤ limits.maxTokens := by
  rcases root.tokenize_cases text limits with hmany | hdeep | ⟨us, hus, hlaid⟩
  · simp [hmany] at h
  · simp [hdeep] at h
  · obtain rfl : us = ts := by simpa [hus] using h
    exact hlaid

theorem check_toGrammar (root : RuleGrammar) (text : String) (limits : Limits) :
    root.toGrammar.check text limits = root.tokenize text limits := by
  cases h : root.tokenize text limits with
  | error e => exact Grammar.check_of_error (g := root.toGrammar) h
  | ok ts =>
      obtain ⟨hlaid, hcount⟩ := laid_of_tokenize h
      exact Grammar.check_of_ok (g := root.toGrammar) h hcount (fun t ht => (hlaid.inside t ht).2)
        hlaid.apart

theorem tokenize_of_length_le (root : RuleGrammar) (depth : Nat) (h : text.length ≤ most) :
    root.tokenize text ⟨most, depth⟩ = root.tokenize text ⟨text.length, depth⟩ := by
  rcases tokenize_cutShort root text ⟨text.length, depth⟩ ⟨most, depth⟩ h (Nat.le_refl depth) with
    hsame | ⟨hmany, -⟩ | ⟨hdeep, hdeep'⟩
  · exact hsame.symm
  · exact absurd hmany (root.tokenize_ne_tooMany (Nat.le_refl _))
  · exact (hdeep' rfl).trans hdeep.symm

theorem tokenize_eq_ite (h : root.tokenize text ⟨text.length, depth⟩ = .ok ts) (most : Nat) :
    root.tokenize text ⟨most, depth⟩ =
      if ts.length ≤ most then .ok ts else .error (.tooManyTokens most) := by
  rcases Nat.le_total text.length most with hle | hle
  · have hcount : ts.length ≤ text.length := (laid_of_tokenize h).2
    rw [tokenize_of_length_le root depth hle, h, if_pos (Nat.le_trans hcount hle)]
  · rcases tokenize_cutShort root text ⟨most, depth⟩ ⟨text.length, depth⟩ hle
      (Nat.le_refl depth) with
      hsame | ⟨hmany, hlt⟩ | ⟨-, hdeep⟩
    · have hts : root.tokenize text ⟨most, depth⟩ = .ok ts := hsame.trans h
      rw [hts, if_pos (laid_of_tokenize hts).2]
    · rw [hmany, if_neg (Nat.not_le.mpr (hlt ts h))]
    · simp [hdeep rfl] at h

theorem tokenize_of_deep
    (h : root.tokenize text ⟨text.length, depth⟩ = .error (.nestingTooDeep depth)) (most : Nat) :
    root.tokenize text ⟨most, depth⟩ = .error (.nestingTooDeep depth) ∨
      root.tokenize text ⟨most, depth⟩ = .error (.tooManyTokens most) := by
  rcases Nat.le_total text.length most with hle | hle
  · exact Or.inl ((tokenize_of_length_le root depth hle).trans h)
  · rcases tokenize_cutShort root text ⟨most, depth⟩ ⟨text.length, depth⟩ hle
      (Nat.le_refl depth) with
      hsame | ⟨hmany, -⟩ | ⟨hdeep, -⟩
    · exact Or.inl (hsame.trans h)
    · exact Or.inr hmany
    · exact Or.inl hdeep

theorem tokenize_of_larger (h : root.tokenize text limits = .ok ts)
    (hmax : limits.maxTokens ≤ limits'.maxTokens) (hdepth : limits.maxDepth ≤ limits'.maxDepth) :
    root.tokenize text limits' = .ok ts := by
  rcases tokenize_cutShort root text limits limits' hmax hdepth with hsame | ⟨hmany, -⟩ | ⟨hdeep, -⟩
  · exact hsame.symm.trans h
  · simp [hmany] at h
  · simp [hdeep] at h

end

/-- With room for a token on each character of the text, the outcome is that of an unlimited number
of tokens: it stays the same however much more room there is.  If it is a list of tokens, then they
come whenever there is room for all of them, and otherwise their number is exceeded; if the nesting
is too deep, then no room for tokens helps.  And tokens that come under some limits come under all
larger ones. -/
theorem limits_only_cut_off (root : RuleGrammar) (text : String) (depth : Nat) :
    ∃ free : Except TokenizeError (List Token),
      (∀ most, text.length ≤ most → root.tokenize text ⟨most, depth⟩ = free) ∧
      ((∃ ts, free = .ok ts ∧ ∀ most, root.tokenize text ⟨most, depth⟩ =
          if ts.length ≤ most then .ok ts else .error (.tooManyTokens most)) ∨
        (free = .error (.nestingTooDeep depth) ∧ ∀ most,
          root.tokenize text ⟨most, depth⟩ = .error (.nestingTooDeep depth) ∨
            root.tokenize text ⟨most, depth⟩ = .error (.tooManyTokens most))) ∧
      ∀ most ts, root.tokenize text ⟨most, depth⟩ = .ok ts → ∀ most' depth', most ≤ most' →
        depth ≤ depth' → root.tokenize text ⟨most', depth'⟩ = .ok ts := by
  refine ⟨root.tokenize text ⟨text.length, depth⟩,
    fun most hmost => tokenize_of_length_le root depth hmost, ?_,
    fun most ts hts most' depth' hmax hdepth => tokenize_of_larger hts hmax hdepth⟩
  rcases root.tokenize_cases text ⟨text.length, depth⟩ with hmany | hdeep | ⟨ts, hts, -⟩
  · exact absurd hmany (root.tokenize_ne_tooMany (Nat.le_refl _))
  · exact Or.inr ⟨hdeep, tokenize_of_deep hdeep⟩
  · exact Or.inl ⟨ts, hts, tokenize_eq_ite hts⟩

end Highlight.RuleTree
