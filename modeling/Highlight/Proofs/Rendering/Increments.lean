import Highlight.Proofs.Rendering.Histories
import Highlight.Proofs.Rendering.Treatments
import Mathlib.Data.List.Nodup

/-!
# What is computed again

A pass uses the cache for exactly the regions that the passes before it let it remember, and
tokenizes the others.  A tokenization is remembered as long as each later pass scans the block and
none of them tokenizes it with another language or text; it does not matter whether the block moves,
waits or is plain meanwhile.  So nothing is tokenized twice without need, and nothing is kept of
blocks that are gone.
-/

namespace Highlight

/-- Whether no two regions of a document have one id. -/
def Scanner.DistinctIds (s : Scanner) (d : Document) : Prop := ((s.scan d).map Region.id).Nodup

/-- Some pass has tokenized the region, and each pass since then has scanned its block and has not
tokenized it with another language or text. -/
def Remembered (passes : List (List (Region × Treatment))) (x : Region) : Prop :=
  ∃ before pass later, passes = before ++ pass :: later ∧
    (∃ s, (s, .tokenized) ∈ pass ∧ s.Same x) ∧
    ∀ pass' ∈ later, (∃ s t, (s, t) ∈ pass' ∧ s.id = x.id) ∧
      ∀ s, (s, .tokenized) ∈ pass' → s.id = x.id → s.Same x

theorem not_remembered_nil (x : Region) : ¬ Remembered [] x := by
  rintro ⟨before, pass, later, hpasses, -⟩
  simp at hpasses

/-- One more pass. -/
theorem remembered_concat_iff {passes : List (List (Region × Treatment))}
    {pass : List (Region × Treatment)} {x : Region} :
    Remembered (passes ++ [pass]) x ↔
      KnownAfter (Remembered passes) pass x ∧ ∃ s t, (s, t) ∈ pass ∧ s.id = x.id := by
  constructor
  · rintro ⟨before, pass', later, hpasses, ⟨s, hs, hsame⟩, hlater⟩
    rcases List.eq_nil_or_concat later with rfl | ⟨later, last, rfl⟩
    · obtain ⟨-, hlast⟩ := List.append_inj' hpasses rfl
      obtain rfl : pass = pass' := by simpa using hlast
      exact ⟨Or.inl ⟨s, hs, hsame⟩, s, _, hs, hsame.1⟩
    · have hsplit : passes ++ [pass] = (before ++ pass' :: later) ++ [last] := by
        simpa using hpasses
      obtain ⟨rfl, hlast⟩ := List.append_inj' hsplit rfl
      obtain rfl : pass = last := by simpa using hlast
      obtain ⟨hscanned, hkept⟩ := hlater pass (by simp)
      refine ⟨Or.inr ⟨⟨before, pass', later, rfl, ⟨s, hs, hsame⟩, ?_⟩, hkept⟩, hscanned⟩
      intro pass'' hmem
      exact hlater pass'' (by simp [hmem])
  · rintro ⟨⟨s, hs, hsame⟩ | ⟨⟨before, pass', later, rfl, htokenized, hlater⟩, hkept⟩, hscanned⟩
    · exact ⟨passes, pass, [], by simp, ⟨s, hs, hsame⟩, by simp⟩
    · refine ⟨before, pass', later ++ [pass], by simp, htokenized, ?_⟩
      intro pass'' hmem
      rcases List.mem_append.mp hmem with hmem | hmem
      · exact hlater pass'' hmem
      · obtain rfl := List.mem_singleton.mp hmem
        exact ⟨hscanned, hkept⟩

namespace Engine

/-- The passes among some events, each as the treatments of its regions. -/
def passes (e : Engine) (r : Registry) : List (Nat × EngineEvent) → List (List (Region × Treatment))
  | [] => []
  | event :: events =>
      let next := e.occur r event.1 event.2
      match event.2 with
      | .registry _ => next.1.passes next.2 events
      | .recompute d => e.treatments r event.1 d :: next.1.passes next.2 events

variable {e : Engine} {r : Registry} {now : Nat} {d : Document}

theorem treatments_map_fst (e : Engine) (r : Registry) (now : Nat) (d : Document) :
    (e.treatments r now d).map Prod.fst = e.scanner.scan d :=
  (e.begin r d).treat_map_fst e.limits now (e.scanner.scan d)

theorem exists_mem_treatments_iff {P : Region → Prop} :
    (∃ s t, (s, t) ∈ e.treatments r now d ∧ P s) ↔ ∃ s ∈ e.scanner.scan d, P s := by
  rw [← e.treatments_map_fst r now d]
  constructor
  · rintro ⟨s, t, hs, hp⟩
    exact ⟨s, List.mem_map_of_mem hs, hp⟩
  · rintro ⟨s, hs, hp⟩
    obtain ⟨⟨s', t⟩, hs', rfl⟩ := List.mem_map.mp hs
    exact ⟨s', t, hs', hp⟩

theorem knows_prune {c : TokenCache} {live : List Region} {x : Region} :
    (c.prune live).Knows x ↔ c.Knows x ∧ ∃ s ∈ live, s.id = x.id := by
  by_cases hs : ∃ s ∈ live, s.id = x.id <;>
    simp [TokenCache.Knows, TokenCache.prune, Table.get?_keep, hs]

theorem contains_prune {c : TokenCache} {live : List Region} {id : NodeId} :
    (c.prune live).contains id = true ↔ c.contains id = true ∧ ∃ s ∈ live, s.id = id := by
  by_cases hs : ∃ s ∈ live, s.id = id <;>
    simp [TokenCache.contains, TokenCache.prune, Table.contains, Table.get?_keep, hs]

/-- What the cache knows after a pass. -/
theorem recompute_knows (hd : e.scanner.DistinctIds d) (x : Region) :
    (e.recompute r now d).2.1.cache.Knows x ↔
      KnownAfter e.cache.Knows (e.treatments r now d) x ∧
        ∃ s t, (s, t) ∈ e.treatments r now d ∧ s.id = x.id := by
  have hpass := (e.begin r d).foldl_knows hd e.limits now x
  rw [exists_mem_treatments_iff (P := fun s => s.id = x.id)]
  exact knows_prune.trans (and_congr_left' hpass)

/-- The blocks in the cache after a pass. -/
theorem recompute_contains (e : Engine) (r : Registry) (now : Nat) (d : Document) (id : NodeId) :
    (e.recompute r now d).2.1.cache.contains id = true ↔
      ∃ s ∈ e.scanner.scan d, s.id = id ∧
        (e.cache.contains id = true ∨ Covered r.grammar? s.language) := by
  have hpass := (e.begin r d).foldl_contains e.limits now (e.scanner.scan d) id
  refine contains_prune.trans ((and_congr_left' hpass).trans ?_)
  constructor
  · rintro ⟨hcached | ⟨s, hs, hid, hcov⟩, hscanned⟩
    · obtain ⟨s, hs, hid⟩ := hscanned
      exact ⟨s, hs, hid, Or.inl hcached⟩
    · exact ⟨s, hs, hid, Or.inr hcov⟩
  · rintro ⟨s, hs, hid, hcached | hcov⟩
    · exact ⟨Or.inl hcached, s, hs, hid⟩
    · exact ⟨Or.inr ⟨s, hs, hid, hcov⟩, s, hs, hid⟩

theorem recompute_counts (e : Engine) (r : Registry) (now : Nat) (d : Document) :
    let treated := (e.treatments r now d).map Prod.snd
    (e.recompute r now d).1.stats.cacheHits = treated.count .reused ∧
      (e.recompute r now d).1.stats.tokenized = treated.count .tokenized := by
  have h := (e.begin r d).treat_counts e.limits now (e.scanner.scan d)
  simp only [begin, Nat.zero_add] at h
  exact h

theorem recompute_grammar? (e : Engine) (r : Registry) (now : Nat) (d : Document) :
    (e.recompute r now d).2.2.grammar? = r.grammar? :=
  (e.begin r d).foldl_grammar? e.limits now (e.scanner.scan d)

/-- Of the regions with a grammar, those that the cache knows are decorated from it, and the others
are tokenized. -/
theorem treatments_iff (hd : e.scanner.DistinctIds d) {s : Region} {t : Treatment}
    (h : (s, t) ∈ e.treatments r now d) :
    (t = .reused ↔ Covered r.grammar? s.language ∧ e.cache.Knows s) ∧
      (t = .tokenized ↔ Covered r.grammar? s.language ∧ ¬ e.cache.Knows s) :=
  Progress.treat_iff hd h

/-- After a pass the cache knows all regions that have a grammar. -/
theorem recompute_knows_covered (hd : e.scanner.DistinctIds d) {s : Region}
    (hs : s ∈ e.scanner.scan d) (hcov : Covered r.grammar? s.language) :
    (e.recompute r now d).2.1.cache.Knows s := by
  obtain ⟨s, t, ht, rfl⟩ : ∃ s' t, (s', t) ∈ e.treatments r now d ∧ s' = s :=
    exists_mem_treatments_iff.mpr ⟨s, hs, rfl⟩
  rw [recompute_knows hd]
  refine ⟨?_, s, t, ht, rfl⟩
  by_cases hknown : e.cache.Knows s
  · refine Or.inr ⟨hknown, fun s' hs' hid => ?_⟩
    have hmem : s' ∈ e.scanner.scan d := Progress.mem_of_mem_treat hs'
    obtain rfl : s' = s := List.inj_on_of_nodup_map hd hmem hs hid
    exact absurd hknown ((treatments_iff hd hs').2.mp rfl).2
  · obtain rfl : t = .tokenized := (treatments_iff hd ht).2.mpr ⟨hcov, hknown⟩
    exact Or.inl ⟨s, ht, rfl, rfl, rfl⟩

/-- With the document and the grammars of the last pass, no region is tokenized. -/
theorem recompute_again (hd : e.scanner.DistinctIds d) (later : Nat) :
    ((e.recompute r now d).2.1.recompute
      (e.recompute r now d).2.2 later d).1.stats.tokenized = 0 := by
  have hnext : (e.recompute r now d).2.1.scanner.DistinctIds d := hd
  rw [(recompute_counts _ _ _ _).2, List.count_eq_zero]
  intro hmem
  obtain ⟨⟨s, t⟩, ht, rfl⟩ := List.mem_map.mp hmem
  obtain ⟨hcov, hunknown⟩ := (treatments_iff hnext ht).2.mp rfl
  rw [recompute_grammar?] at hcov
  exact hunknown (recompute_knows_covered hd (Progress.mem_of_mem_treat ht) hcov)

/-- The cache of an engine knows what the passes let it remember. -/
theorem after_knows {events : List (Nat × EngineEvent)} {before : List (List (Region × Treatment))}
    (hknown : ∀ x, e.cache.Knows x ↔ Remembered before x)
    (hevents : ∀ time doc, (time, .recompute doc) ∈ events → e.scanner.DistinctIds doc)
    (x : Region) :
    (e.after r events).1.cache.Knows x ↔ Remembered (before ++ e.passes r events) x := by
  induction events generalizing e r before with
  | nil => simpa [after, passes] using hknown x
  | cons event events ih =>
      have hrest : ∀ time doc, (time, .recompute doc) ∈ events → e.scanner.DistinctIds doc :=
        fun time doc hmem => hevents time doc (List.mem_cons_of_mem _ hmem)
      rcases event with ⟨time, registryEvent | doc⟩
      · exact ih hknown hrest
      · have hdoc := hevents time doc List.mem_cons_self
        have hnext : ∀ x, (e.recompute r time doc).2.1.cache.Knows x ↔
            Remembered (before ++ [e.treatments r time doc]) x := by
          intro x
          have hknows : e.cache.Knows = Remembered before := funext fun x => propext (hknown x)
          rw [recompute_knows hdoc, remembered_concat_iff, hknows]
        have hlast := ih (r := (e.recompute r time doc).2.2) hnext hrest
        rw [List.append_assoc] at hlast
        exact hlast

theorem after_scanner (e : Engine) (r : Registry) (events : List (Nat × EngineEvent)) :
    (e.after r events).1.scanner = e.scanner := by
  induction events generalizing e r with
  | nil => rfl
  | cons event events ih =>
      rcases event with ⟨time, registryEvent | doc⟩
      · exact ih e _
      · exact ih (e.recompute r time doc).2.1 _

/-- Nothing is computed twice without need, and nothing is kept that is gone.  After any events a
pass over a document deals with each region once: those with a grammar come from the cache if the
passes let the engine remember them and are tokenized if not.  Then the cache has the scanned blocks
that it had before or that have a grammar, and the same pass again tokenizes nothing. -/
theorem reused_iff_remembered (scanner : Scanner) (limits : Limits) (r : Registry)
    (events : List (Nat × EngineEvent)) (now : Nat) (d : Document)
    (hevents : ∀ time doc, (time, .recompute doc) ∈ events → scanner.DistinctIds doc)
    (hd : scanner.DistinctIds d) :
    let history := passes { scanner, limits } r events
    let engine := (after { scanner, limits } r events).1
    let registry := (after { scanner, limits } r events).2
    let treated := engine.treatments registry now d
    let next := engine.recompute registry now d
    treated.map Prod.fst = scanner.scan d ∧
    (∀ s t, (s, t) ∈ treated →
      (t = .reused ↔ Covered registry.grammar? s.language ∧ Remembered history s) ∧
      (t = .tokenized ↔ Covered registry.grammar? s.language ∧ ¬ Remembered history s)) ∧
    next.1.stats.cacheHits = (treated.map Prod.snd).count .reused ∧
    next.1.stats.tokenized = (treated.map Prod.snd).count .tokenized ∧
    (∀ id, next.2.1.cache.contains id = true ↔ ∃ s ∈ scanner.scan d, s.id = id ∧
      (engine.cache.contains id = true ∨ Covered registry.grammar? s.language)) ∧
    ∀ later, (next.2.1.recompute next.2.2 later d).1.stats.tokenized = 0 := by
  intro history engine registry treated next
  have hscanner : engine.scanner = scanner := after_scanner _ r events
  have hdistinct : engine.scanner.DistinctIds d := hscanner ▸ hd
  have hnew : ∀ x, TokenCache.Knows {} x ↔ Remembered [] x := fun x =>
    iff_of_false (by simp [TokenCache.Knows, Table.get?]) (not_remembered_nil x)
  have hknown : ∀ x, engine.cache.Knows x ↔ Remembered history x :=
    after_knows (e := { scanner, limits }) hnew hevents
  have hcounts := engine.recompute_counts registry now d
  refine ⟨?_, ?_, hcounts.1, hcounts.2, ?_, recompute_again hdistinct⟩
  · exact hscanner ▸ engine.treatments_map_fst registry now d
  · intro s t ht
    rw [← hknown s]
    exact treatments_iff hdistinct ht
  · intro id
    exact hscanner ▸ engine.recompute_contains registry now d id

/-- A block declares no language for one pass and moves; then it has its language back, and its old
tokens.  A new block in front of it is tokenized. -/
theorem reused_after_a_plain_pass :
    let block : Block := { id := 1, language := some "x", text := "ab" }
    let plain : Block := { id := 1, text := "ab" }
    let other : Block := { id := 2, language := some "x", text := "c" }
    let events : List (Nat × EngineEvent) :=
      [(0, .registry (.register "x" .whole)), (1, .recompute ⟨[block]⟩), (2, .recompute ⟨[plain]⟩)]
    let d : Document := ⟨[other, block]⟩
    let s := after { scanner := {}, limits := {} } {} events
    (∀ time doc, (time, .recompute doc) ∈ events → Scanner.DistinctIds {} doc) ∧
      Scanner.DistinctIds {} d ∧
      (s.1.treatments s.2 3 d).map Prod.snd = [.tokenized, .reused] ∧
      (s.1.recompute s.2 3 d).1.stats.cacheHits = 1 ∧
      (∀ r t, (r, t) ∈ s.1.treatments s.2 3 d → r.id = 1 →
        Remembered (passes { scanner := {}, limits := {} } {} events) r) := by
  intro block plain other events d s
  have hevents : ∀ time doc, (time, .recompute doc) ∈ events → Scanner.DistinctIds {} doc := by
    intro time doc h
    simp only [events, List.mem_cons, Prod.mk.injEq, reduceCtorEq, and_false, false_or,
      EngineEvent.recompute.injEq, List.not_mem_nil, or_false] at h
    rcases h with ⟨-, rfl⟩ | ⟨-, rfl⟩ <;> exact List.nodup_singleton 1
  have hd : Scanner.DistinctIds {} d := by
    show [2, 1].Nodup
    decide
  obtain ⟨-, htreated, hhits, -⟩ := reused_iff_remembered {} {} {} events 3 d hevents hd
  have heq : (s.1.treatments s.2 3 d).map (fun x => (x.1.id, x.2)) =
      [(2, .tokenized), (1, .reused)] := by
    decide +kernel
  have hsnd : (s.1.treatments s.2 3 d).map Prod.snd = [.tokenized, .reused] := by
    have h := congrArg (List.map Prod.snd) heq
    simpa [Function.comp_def] using h
  refine ⟨hevents, hd, hsnd, ?_, ?_⟩
  · rw [hhits, hsnd]
    decide
  · intro r t hr hid
    have hmem : (r.id, t) ∈ (s.1.treatments s.2 3 d).map (fun x => (x.1.id, x.2)) :=
      List.mem_map_of_mem (f := fun x : Region × Treatment => (x.1.id, x.2)) hr
    rw [heq, hid] at hmem
    obtain rfl : t = .reused := by simpa using hmem
    exact ((htreated r .reused hr).1.mp rfl).2

end Engine

end Highlight
