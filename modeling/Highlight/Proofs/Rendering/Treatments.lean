import Highlight.Proofs.Rendering.Passes

/-!
# What a pass does with each region

A pass leaves a region plain, awaits its grammar, takes its decorations from the cache or tokenizes
it.  Which of these it was shows in the counts of the pass.  `Progress.visited` says what each of
them means for the cache, and from it come the entries that a pass can use and the entries that it
leaves.
-/

namespace Highlight

/-- What a pass does with a region. -/
inductive Treatment where
  | plain
  | awaited
  | reused
  | tokenized
  deriving DecidableEq, Repr

/-- Whether two regions agree in all that the cache goes by. -/
def Region.Same (r s : Region) : Prop := r.id = s.id ∧ r.language = s.language ∧ r.text = s.text

/-- Whether the cache has an entry that can be used for a region. -/
def TokenCache.Knows (c : TokenCache) (r : Region) : Prop :=
  ∃ e, c.entries.get? r.id = some e ∧ e.fits r = true

/-- What is known of a region after a pass with these treatments: what the pass has tokenized, and
what was known before unless the pass has put something else in its place. -/
def KnownAfter (known : Region → Prop) (treated : List (Region × Treatment)) (x : Region) : Prop :=
  (∃ s, (s, .tokenized) ∈ treated ∧ s.Same x) ∨
    (known x ∧ ∀ s, (s, .tokenized) ∈ treated → s.id = x.id → s.Same x)

namespace Engine

/-- What happened from one moment of a pass to another, by the counts. -/
def Progress.treatment (p q : Progress) : Treatment :=
  if p.stats.cacheHits < q.stats.cacheHits then .reused
  else if p.stats.tokenized < q.stats.tokenized then .tokenized
  else if p.stats.awaiting < q.stats.awaiting then .awaited
  else .plain

/-- The regions that a pass still has to deal with, each with its treatment. -/
def Progress.treat (limits : Limits) (now : Nat) :
    Progress → List Region → List (Region × Treatment)
  | _, [] => []
  | p, r :: rs =>
      let q := p.visit limits now r
      (r, p.treatment q) :: q.treat limits now rs

/-- A pass before its first region. -/
def begin (e : Engine) (registry : Registry) (d : Document) : Progress :=
  { cache := e.cache, registry, stats := { regions := (e.scanner.scan d).length } }

/-- The regions of a document in their order, each with what a pass does with it. -/
def treatments (e : Engine) (registry : Registry) (now : Nat) (d : Document) :
    List (Region × Treatment) :=
  (e.begin registry d).treat e.limits now (e.scanner.scan d)

end Engine

section

variable {r s x : Region} {c : TokenCache}

theorem Region.covered_iff {known : String → Option Grammar} :
    Covered known r.language ↔ ∃ tag g, r.language? = some tag ∧ known tag = some g := by
  simp only [Covered, r.language?_eq_some_iff, and_assoc]

theorem TokenCache.entry?_eq_none_iff : c.entry? r = none ↔ ¬ c.Knows r := by
  unfold entry? Knows
  cases c.entries.get? r.id with
  | none => simp
  | some e => simp

theorem TokenCache.entry?_eq_some {e : CacheEntry} (h : c.entry? r = some e) :
    c.Knows r ∧ e.text = r.text ∧ e.language = r.language := by
  unfold entry? at h
  cases hget : c.entries.get? r.id with
  | none => simp [hget] at h
  | some e' =>
      simp only [hget, Option.ite_none_right_eq_some, Option.some.injEq] at h
      obtain ⟨hfits, rfl⟩ := h
      refine ⟨⟨e', hget, hfits⟩, ?_⟩
      have hsame : (e'.movedTo r.start).text = e'.text ∧
          (e'.movedTo r.start).language = e'.language := by
        unfold CacheEntry.movedTo
        split <;> exact ⟨rfl, rfl⟩
      simpa [CacheEntry.fits, hsame] using hfits

/-- An entry with the language and the text of a region makes that region known, and no other region
of its block. -/
theorem TokenCache.knows_insert {e : CacheEntry} (htext : e.text = r.text)
    (hlanguage : e.language = r.language) :
    Knows ⟨c.entries.insert r.id e⟩ x ↔ r.Same x ∨ (r.id ≠ x.id ∧ c.Knows x) := by
  by_cases hid : x.id = r.id
  · simp [Knows, Region.Same, hid, CacheEntry.fits, htext, hlanguage, and_comm]
  · simp [Knows, Region.Same, Table.get?_insert, hid, Ne.symm hid]

end

namespace Engine

variable {limits : Limits} {now : Nat} {p q : Progress} {r s x : Region} {t : Treatment}

/-- What each treatment of a region means for the cache. -/
inductive Progress.Visited (r : Region) (p q : Progress) : Treatment → Prop
  | left (t : Treatment) (ht : t = .plain ∨ t = .awaited)
      (hr : ¬ Covered p.registry.grammar? r.language) (hcache : q.cache = p.cache) : Visited r p q t
  | reused (e : CacheEntry) (hr : Covered p.registry.grammar? r.language)
      (he : p.cache.entry? r = some e) (hcache : q.cache = ⟨p.cache.entries.insert r.id e⟩) :
      Visited r p q .reused
  | tokenized (ds : List Decoration) (hr : Covered p.registry.grammar? r.language)
      (he : p.cache.entry? r = none) (hcache : q.cache = p.cache.put r ds) :
      Visited r p q .tokenized

theorem Progress.visited (p : Progress) (limits : Limits) (now : Nat) (r : Region) :
    Visited r p (p.visit limits now r) (p.treatment (p.visit limits now r)) := by
  rcases p.visit_cases limits now r with
    ⟨hv, hplain⟩ | ⟨tag, g, hl, hg, hv⟩ | ⟨tag, l, hl, hg, -, hv⟩
  · rw [hv]
    have ht : p.treatment p.leavePlain = .plain := by simp [treatment, leavePlain]
    rw [ht]
    refine .left .plain (Or.inl rfl) ?_ rfl
    rw [Region.covered_iff]
    rintro ⟨tag, g, hl, hg⟩
    rcases hplain with hnone | ⟨tag', hl', hg', -⟩
    · simp [hnone] at hl
    · obtain rfl : tag' = tag := by simpa [hl] using hl'.symm
      simp [hg'] at hg
  · have hcov : Covered p.registry.grammar? r.language := Region.covered_iff.mpr ⟨tag, g, hl, hg⟩
    rw [hv]
    unfold highlight TokenCache.get
    cases he : p.cache.entry? r with
    | some e =>
        simp only [treatment, Nat.lt_succ_self, if_true]
        exact .reused e hcov he rfl
    | none =>
        simp only [treatment, Nat.lt_irrefl, Nat.lt_succ_self, if_true, if_false]
        exact .tokenized _ hcov he rfl
  · rw [hv]
    simp only [treatment, await, Nat.lt_irrefl, Nat.lt_succ_self, if_true, if_false]
    refine .left .awaited (Or.inr rfl) ?_ rfl
    rw [Region.covered_iff]
    rintro ⟨tag', g, hl', hg'⟩
    obtain rfl : tag = tag' := by simpa [hl] using hl'
    simp [hg] at hg'

/-- No grammar comes or goes during a pass. -/
theorem Progress.visit_grammar? (p : Progress) (limits : Limits) (now : Nat) (r : Region) :
    (p.visit limits now r).registry.grammar? = p.registry.grammar? := by
  rcases p.visit_cases limits now r with ⟨hv, -⟩ | ⟨tag, g, -, -, hv⟩ | ⟨tag, l, -, -, -, hv⟩
  · rw [hv]
    rfl
  · rw [hv, (p.highlight_frame limits r g).1]
  · rw [hv]
    exact p.registry.ensureLoaded_grammar? now tag

/-- Each visit is counted once. -/
theorem Progress.visit_counts (p : Progress) (limits : Limits) (now : Nat) (r : Region) :
    let q := p.visit limits now r
    q.stats.cacheHits = p.stats.cacheHits + (if p.treatment q = .reused then 1 else 0) ∧
      q.stats.tokenized = p.stats.tokenized + if p.treatment q = .tokenized then 1 else 0 := by
  intro q
  rcases p.visit_cases limits now r with ⟨hv, -⟩ | ⟨tag, g, -, -, hv⟩ | ⟨tag, l, -, -, -, hv⟩
  · simp [q, hv, treatment, leavePlain]
  · simp only [q, hv]
    unfold highlight
    split <;> simp [treatment]
  · simp [q, hv, treatment, await]

theorem Progress.Visited.treatment_iff (h : Visited r p q t) :
    (t = .reused ↔ Covered p.registry.grammar? r.language ∧ p.cache.Knows r) ∧
      (t = .tokenized ↔ Covered p.registry.grammar? r.language ∧ ¬ p.cache.Knows r) := by
  cases h with
  | left t ht hr hcache => rcases ht with rfl | rfl <;> simp [hr]
  | reused e hr he hcache => simp [hr, (TokenCache.entry?_eq_some he).1]
  | tokenized ds hr he hcache => simp [hr, TokenCache.entry?_eq_none_iff.mp he]

theorem Progress.Visited.knows (h : Visited r p q t) (x : Region) :
    q.cache.Knows x ↔ KnownAfter p.cache.Knows [(r, t)] x := by
  cases h with
  | left t ht hr hcache =>
      have hne : Treatment.tokenized ≠ t := by rcases ht with rfl | rfl <;> simp
      simp [KnownAfter, hcache, hne]
  | reused e hr he hcache =>
      obtain ⟨hknown, htext, hlanguage⟩ := TokenCache.entry?_eq_some he
      rw [hcache, TokenCache.knows_insert htext hlanguage]
      have hsame : r.Same x → p.cache.Knows x := by
        rintro ⟨hid, hlang, htext⟩
        simpa [TokenCache.Knows, CacheEntry.fits, hid, hlang, htext] using hknown
      have hback : p.cache.Knows x → r.id = x.id → r.Same x := by
        rintro ⟨e', hget, hfits⟩ hid
        obtain ⟨e'', hget', hfits'⟩ := hknown
        obtain rfl : e'' = e' := by simpa [hid, hget] using hget'.symm
        simp only [CacheEntry.fits, Bool.and_eq_true, beq_iff_eq] at hfits hfits'
        exact ⟨hid, hfits'.2.symm.trans hfits.2, hfits'.1.symm.trans hfits.1⟩
      simp only [KnownAfter, List.mem_singleton, Prod.mk.injEq, reduceCtorEq, and_false, false_and,
        exists_false, false_implies, implies_true, and_true, false_or]
      constructor
      · rintro (hx | ⟨-, hx⟩)
        · exact hsame hx
        · exact hx
      · intro hx
        by_cases hid : r.id = x.id
        · exact Or.inl (hback hx hid)
        · exact Or.inr ⟨hid, hx⟩
  | tokenized ds hr he hcache =>
      rw [hcache, TokenCache.put, TokenCache.knows_insert rfl rfl]
      simp only [KnownAfter, List.mem_singleton, Prod.mk.injEq, and_true, exists_eq_left, forall_eq]
      constructor
      · rintro (hx | ⟨hid, hx⟩)
        · exact Or.inl hx
        · exact Or.inr ⟨hx, fun h => absurd h hid⟩
      · rintro (hx | ⟨hx, himp⟩)
        · exact Or.inl hx
        · by_cases hid : r.id = x.id
          · exact Or.inl (himp hid)
          · exact Or.inr ⟨hid, hx⟩

theorem Progress.Visited.contains (h : Visited r p q t) (id : NodeId) :
    q.cache.contains id = true ↔
      p.cache.contains id = true ∨ (r.id = id ∧ Covered p.registry.grammar? r.language) := by
  cases h with
  | left t ht hr hcache => simp [hcache, hr]
  | reused e hr he hcache =>
      obtain ⟨⟨e', hget, -⟩, -⟩ := TokenCache.entry?_eq_some he
      by_cases hid : id = r.id
      · simp [hcache, hid, TokenCache.contains, Table.contains, hget]
      · simp [hcache, TokenCache.contains, Table.contains, Table.get?_insert, hid, Ne.symm hid]
  | tokenized ds hr he hcache =>
      by_cases hid : id = r.id
      · simp [hcache, hid, TokenCache.put, TokenCache.contains, Table.contains, hr]
      · simp [hcache, TokenCache.put, TokenCache.contains, Table.contains, Table.get?_insert, hid,
          Ne.symm hid]

/-- A region of a block that another visit was about is as known as before. -/
theorem Progress.Visited.knows_of_ne (h : Visited r p q t) (hid : r.id ≠ x.id) :
    q.cache.Knows x ↔ p.cache.Knows x := by
  have hne : ¬ r.Same x := fun hsame => hid hsame.1
  rw [h.knows x]
  simp [KnownAfter, hne, hid]

/-! ### All regions of a pass -/

theorem Progress.treat_map_fst (p : Progress) (limits : Limits) (now : Nat) (rs : List Region) :
    (p.treat limits now rs).map Prod.fst = rs := by
  induction rs generalizing p with
  | nil => rfl
  | cons r rs ih => simp [treat, ih]

theorem Progress.mem_of_mem_treat {rs : List Region} (h : (s, t) ∈ p.treat limits now rs) :
    s ∈ rs := by
  rw [← p.treat_map_fst limits now rs]
  exact List.mem_map_of_mem h

theorem Progress.treat_counts (p : Progress) (limits : Limits) (now : Nat) (rs : List Region) :
    let q := rs.foldl (Progress.visit limits now) p
    let treated := (p.treat limits now rs).map Prod.snd
    q.stats.cacheHits = p.stats.cacheHits + treated.count .reused ∧
      q.stats.tokenized = p.stats.tokenized + treated.count .tokenized := by
  induction rs generalizing p with
  | nil => simp [treat]
  | cons r rs ih =>
      obtain ⟨hhits, htokenized⟩ := ih (p.visit limits now r)
      obtain ⟨hhit, htoken⟩ := p.visit_counts limits now r
      simp only [List.foldl_cons, treat, List.map_cons, List.count_cons, beq_iff_eq]
      rw [hhits, htokenized, hhit, htoken]
      omega

theorem Progress.foldl_grammar? (p : Progress) (limits : Limits) (now : Nat) (rs : List Region) :
    (rs.foldl (Progress.visit limits now) p).registry.grammar? = p.registry.grammar? := by
  induction rs generalizing p with
  | nil => rfl
  | cons r rs ih => rw [List.foldl_cons, ih, visit_grammar?]

/-- Of the regions with a grammar, those that are known when the pass begins come from the cache,
and the others are tokenized. -/
theorem Progress.treat_iff {rs : List Region} (hids : (rs.map Region.id).Nodup)
    (h : (s, t) ∈ p.treat limits now rs) :
    (t = .reused ↔ Covered p.registry.grammar? s.language ∧ p.cache.Knows s) ∧
      (t = .tokenized ↔ Covered p.registry.grammar? s.language ∧ ¬ p.cache.Knows s) := by
  induction rs generalizing p with
  | nil => simp [treat] at h
  | cons r rs ih =>
      obtain ⟨hr, hrs⟩ := List.nodup_cons.mp hids
      rcases List.mem_cons.mp h with hhead | htail
      · obtain ⟨rfl, rfl⟩ := Prod.mk.inj hhead
        exact (p.visited limits now s).treatment_iff
      · have hne : r.id ≠ s.id := by
          intro heq
          exact hr (heq ▸ List.mem_map_of_mem (mem_of_mem_treat htail))
        have := ih hrs htail
        rw [visit_grammar?, (p.visited limits now r).knows_of_ne hne] at this
        exact this

/-- What one treatment changes is not changed again by treatments of other blocks. -/
theorem knownAfter_cons {known : Region → Prop} {treated : List (Region × Treatment)}
    (hlater : ∀ s t, (s, t) ∈ treated → s.id ≠ r.id) :
    KnownAfter (KnownAfter known [(r, t)]) treated x ↔ KnownAfter known ((r, t) :: treated) x := by
  constructor
  · rintro (⟨s, hs, hsame⟩ | ⟨⟨s, hs, hsame⟩ | ⟨hx, hhead⟩, htail⟩)
    · exact Or.inl ⟨s, List.mem_cons_of_mem _ hs, hsame⟩
    · exact Or.inl ⟨s, List.mem_cons.mpr (Or.inl (List.mem_singleton.mp hs)), hsame⟩
    · refine Or.inr ⟨hx, fun s hs hid => ?_⟩
      rcases List.mem_cons.mp hs with heq | hs
      · exact hhead s (List.mem_singleton.mpr heq) hid
      · exact htail s hs hid
  · rintro (⟨s, hs, hsame⟩ | ⟨hx, hall⟩)
    · rcases List.mem_cons.mp hs with heq | hs
      · refine Or.inr ⟨Or.inl ⟨s, List.mem_singleton.mpr heq, hsame⟩, fun s' hs' hid => ?_⟩
        obtain ⟨rfl, -⟩ := Prod.mk.inj heq
        exact absurd (hid.trans hsame.1.symm) (hlater s' _ hs')
      · exact Or.inl ⟨s, hs, hsame⟩
    · refine Or.inr ⟨Or.inr ⟨hx, fun s hs => ?_⟩, fun s hs => hall s (List.mem_cons_of_mem _ hs)⟩
      exact hall s (List.mem_cons.mpr (Or.inl (List.mem_singleton.mp hs)))

/-- What the cache knows after all regions of distinct blocks. -/
theorem Progress.foldl_knows {rs : List Region} (hids : (rs.map Region.id).Nodup) (p : Progress)
    (limits : Limits) (now : Nat) (x : Region) :
    (rs.foldl (Progress.visit limits now) p).cache.Knows x ↔
      KnownAfter p.cache.Knows (p.treat limits now rs) x := by
  induction rs generalizing p with
  | nil => simp [treat, KnownAfter]
  | cons r rs ih =>
      obtain ⟨hr, hrs⟩ := List.nodup_cons.mp hids
      have hv := p.visited limits now r
      have hlater : ∀ s t, (s, t) ∈ (p.visit limits now r).treat limits now rs → s.id ≠ r.id :=
        fun s t hs heq => hr (heq ▸ List.mem_map_of_mem (mem_of_mem_treat hs))
      have hknown : (p.visit limits now r).cache.Knows =
          KnownAfter p.cache.Knows [(r, p.treatment (p.visit limits now r))] :=
        funext fun x => propext (hv.knows x)
      rw [List.foldl_cons, ih hrs, treat, hknown]
      exact knownAfter_cons hlater

/-- The cached blocks after all regions. -/
theorem Progress.foldl_contains (p : Progress) (limits : Limits) (now : Nat) (rs : List Region)
    (id : NodeId) :
    (rs.foldl (Progress.visit limits now) p).cache.contains id = true ↔
      p.cache.contains id = true ∨
        ∃ r ∈ rs, r.id = id ∧ Covered p.registry.grammar? r.language := by
  induction rs generalizing p with
  | nil => simp
  | cons r rs ih =>
      rw [List.foldl_cons, ih, visit_grammar?, (p.visited limits now r).contains, or_assoc]
      simp only [List.mem_cons, exists_eq_or_imp]

end Engine

end Highlight
