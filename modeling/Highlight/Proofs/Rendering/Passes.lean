import Highlight.Proofs.Rendering.WarmCache
import Mathlib.Logic.Relation

/-!
# What a pass does

A pass deals with one region after the other.  `Progress.visit_cases` says what can happen to a
region; from it come the decorations of a pass, the loads it waits for, and what is known when it
waits for none.
-/

namespace Highlight

namespace Registry

/-- Any number of turns in which no grammar is adopted. -/
abbrev Turns : Registry → Registry → Prop := Relation.ReflTransGen fun r r' => Turn r none r'

theorem Turns.sound {r r' : Registry} (t : Turns r r') (h : Sound r) : Sound r' := by
  induction t with
  | refl => exact h
  | tail _ t ih => exact t.sound ih

theorem Turns.isFinished {r r' : Registry} (t : Turns r r') {l : Load}
    (h : r.isFinished l = true) : r'.isFinished l = true := by
  induction t with
  | refl => exact h
  | tail _ t ih => exact t.isFinished ih

theorem Turns.nextId_le {r r' : Registry} (t : Turns r r') : r.nextId ≤ r'.nextId := by
  induction t with
  | refl => exact Nat.le_refl _
  | tail _ t ih => exact Nat.le_trans ih t.nextId_le

theorem Turns.loaders_eq {r r' : Registry} (t : Turns r r') : r'.loaders = r.loaders := by
  induction t with
  | refl => rfl
  | tail _ t ih => exact t.loaders_eq.trans ih

theorem Turns.retry_eq {r r' : Registry} (t : Turns r r') : r'.retry = r.retry := by
  induction t with
  | refl => rfl
  | tail _ t ih => exact t.retry_eq.trans ih

end Registry

namespace Region

theorem language?_eq_some_iff (r : Region) (tag : String) :
    r.language? = some tag ↔ r.language = some tag ∧ Language.isPlain tag = false := by
  unfold language?
  rw [Option.filter_eq_some_iff]
  simp

theorem scratch_of_language?_none {r : Region} (h : r.language? = none)
    (known : String → Option Grammar) (limits : Limits) : r.scratch known limits = [] := by
  unfold scratch labelledTokens
  cases hl : r.language with
  | none => rfl
  | some tag =>
      cases hplain : Language.isPlain tag with
      | true => simp [hplain]
      | false =>
          have hsome := (r.language?_eq_some_iff tag).mpr ⟨hl, hplain⟩
          simp [h] at hsome

theorem scratch_of_unknown {r : Region} {known : String → Option Grammar} {tag : String}
    (h : r.language? = some tag) (hk : known tag = none) (limits : Limits) :
    r.scratch known limits = [] := by
  obtain ⟨hl, hplain⟩ := (r.language?_eq_some_iff tag).mp h
  simp [scratch, labelledTokens, hl, hplain, hk]

/-- What a tokenization gives, failures included, is what the region should have. -/
theorem getD_highlight? {r : Region} {known : String → Option Grammar} {tag : String} {g : Grammar}
    (h : r.language? = some tag) (hk : known tag = some g) (limits : Limits) :
    (r.highlight? g limits).getD [] = r.scratch known limits := by
  obtain ⟨hl, hplain⟩ := (r.language?_eq_some_iff tag).mp h
  unfold highlight? scratch labelledTokens
  cases hc : g.check r.text limits with
  | error e => simp [hl, hplain, hk, hc]
  | ok tokens =>
      simp only [hl, hplain, hk, hc]
      rfl

end Region

namespace Engine

variable {limits : Limits} {now : Nat}

/-- A region is left plain, decorated, or awaited. -/
theorem Progress.visit_cases (p : Progress) (limits : Limits) (now : Nat) (r : Region) :
    (p.visit limits now r = p.leavePlain ∧
      (r.language? = none ∨ ∃ tag, r.language? = some tag ∧ p.registry.grammar? tag = none ∧
        (p.registry.ensureLoaded now tag).1 = none)) ∨
    (∃ tag g, r.language? = some tag ∧ p.registry.grammar? tag = some g ∧
      p.visit limits now r = p.highlight limits r g) ∨
    ∃ tag l, r.language? = some tag ∧ p.registry.grammar? tag = none ∧
      (p.registry.ensureLoaded now tag).1 = some l ∧
      p.visit limits now r =
        { p with registry := (p.registry.ensureLoaded now tag).2 }.await l := by
  unfold visit
  cases hl : r.language? with
  | none => exact Or.inl ⟨rfl, Or.inl rfl⟩
  | some tag =>
      cases hg : p.registry.grammar? tag with
      | some g => exact Or.inr (Or.inl ⟨tag, g, rfl, hg, by simp [hg]⟩)
      | none =>
          rcases he : p.registry.ensureLoaded now tag with ⟨load?, registry⟩
          cases load? with
          | none =>
              -- nothing has changed, so the second look finds no grammar either
              have hnone : (p.registry.ensureLoaded now tag).1 = none := by rw [he]
              obtain rfl : registry = p.registry := by
                simpa only [he] using Registry.ensureLoaded_of_none hnone
              exact Or.inl ⟨by simp [hg, he], Or.inr ⟨tag, rfl, hg, by simp [he]⟩⟩
          | some l => exact Or.inr (Or.inr ⟨tag, l, rfl, hg, by simp [he], by simp [hg, he]⟩)

/-- The registry and the loads to wait for do not depend on the cache. -/
theorem Progress.highlight_frame (p : Progress) (limits : Limits) (r : Region) (g : Grammar) :
    (p.highlight limits r g).registry = p.registry ∧
      (p.highlight limits r g).pending = p.pending ∧
      (p.highlight limits r g).incomplete = p.incomplete := by
  unfold highlight
  split <;> exact ⟨rfl, rfl, rfl⟩

/-! ### Decorations -/

/-- The cache is fresh, and the decorations so far are those that some regions should have. -/
structure Progress.Right (known : String → Option Grammar) (limits : Limits) (done : List Region)
    (p : Progress) : Prop where
  known_eq : p.registry.grammar? = known
  fresh : p.cache.Fresh known limits
  decorations_eq : p.decorations = done.flatMap (Region.scratch known limits)

theorem Progress.Right.highlight {known : String → Option Grammar} {done : List Region}
    {p : Progress} (h : p.Right known limits done) {r : Region} (hr : r.Fits) {tag : String}
    {g : Grammar} (hl : r.language? = some tag) (hk : known tag = some g) :
    (p.highlight limits r g).Right known limits (done ++ [r]) := by
  have hcov : Covered known r.language := by
    obtain ⟨hlang, hplain⟩ := (r.language?_eq_some_iff tag).mp hl
    exact ⟨tag, g, hlang, hplain, hk⟩
  obtain ⟨hfresh, hhit⟩ := h.fresh.get hr
  unfold Progress.highlight
  rcases hget : p.cache.get r with ⟨ds?, cache⟩
  rw [hget] at hfresh hhit
  cases ds? with
  | some ds =>
      refine ⟨h.known_eq, hfresh, ?_⟩
      simp [h.decorations_eq, hhit ds rfl]
  | none =>
      simp only [Region.getD_highlight? hl hk]
      exact ⟨h.known_eq, hfresh.put hr hcov, by simp [h.decorations_eq]⟩

theorem Progress.Right.visit {known : String → Option Grammar} {done : List Region} {p : Progress}
    (h : p.Right known limits done) (now : Nat) {r : Region} (hr : r.Fits) :
    (p.visit limits now r).Right known limits (done ++ [r]) := by
  rcases p.visit_cases limits now r with ⟨hv, hplain⟩ | ⟨tag, g, hl, hg, hv⟩ |
    ⟨tag, l, hl, hg, he, hv⟩
  · rw [hv]
    have hnone : r.scratch known limits = [] := by
      rcases hplain with hl | ⟨tag, hl, hg, -⟩
      · exact Region.scratch_of_language?_none hl known limits
      · exact Region.scratch_of_unknown hl (h.known_eq ▸ hg) limits
    exact ⟨h.known_eq, h.fresh, by simp [Progress.leavePlain, h.decorations_eq, hnone]⟩
  · rw [hv]
    exact h.highlight hr hl (h.known_eq ▸ hg)
  · rw [hv]
    have hnone : r.scratch known limits = [] :=
      Region.scratch_of_unknown hl (h.known_eq ▸ hg) limits
    refine ⟨?_, h.fresh, by simp [Progress.await, h.decorations_eq, hnone]⟩
    simpa only [Progress.await, Registry.ensureLoaded_grammar?] using h.known_eq

theorem Progress.Right.foldl {known : String → Option Grammar} {done : List Region} {p : Progress}
    (h : p.Right known limits done) (now : Nat) {rs : List Region} (hrs : ∀ r ∈ rs, r.Fits) :
    (rs.foldl (Progress.visit limits now) p).Right known limits (done ++ rs) := by
  induction rs generalizing done p with
  | nil => simpa using h
  | cons r rs ih =>
      have hstep := h.visit now (hrs r List.mem_cons_self)
      simpa using ih hstep fun r' hr' => hrs r' (List.mem_cons_of_mem _ hr')

/-! ### Loads -/

/-- What is known of the grammars that some regions lack, after a pass over them that began with the
registry `r`. -/
structure Progress.Waits (r : Registry) (now : Nat) (done : List Region) (p : Progress) : Prop where
  turns : r.Turns p.registry
  loading : ∀ l ∈ p.pending, ∃ failures,
    p.registry.slots.get? l.language = some (.loading failures l.id)
  incomplete : p.incomplete = false ↔ p.pending = []
  /-- As long as nothing is awaited, the registry is the one of the beginning. -/
  covered : p.pending = [] → p.registry = r ∧ ∀ region ∈ done, ∀ tag, region.language? = some tag →
    r.grammar? tag ≠ none ∨ (r.ensureLoaded now tag).1 = none

theorem Progress.mem_await {p : Progress} {l m : Load} (h : m ∈ (p.await l).pending) :
    m ∈ p.pending ∨ m = l := by
  simp only [await] at h
  split at h
  · exact Or.inl h
  · simpa using h

theorem Progress.await_ne_nil (p : Progress) (l : Load) : (p.await l).pending ≠ [] := by
  simp only [await]
  split
  · rename_i h
    rintro hn
    simp [hn] at h
  · simp

theorem Progress.Waits.visit {r : Registry} {done : List Region} {p : Progress}
    (h : p.Waits r now done) (region : Region) :
    (p.visit limits now region).Waits r now (done ++ [region]) := by
  rcases p.visit_cases limits now region with
    ⟨hv, hplain⟩ | ⟨tag, g, hl, hg, hv⟩ | ⟨tag, l, hl, hg, he, hv⟩
  · rw [hv]
    refine ⟨h.turns, h.loading, h.incomplete, ?_⟩
    intro hn
    obtain ⟨hr, hall⟩ := h.covered hn
    refine ⟨hr, fun region' hmem tag' hl' => ?_⟩
    rcases List.mem_append.mp hmem with hold | hnew
    · exact hall region' hold tag' hl'
    · obtain rfl : region' = region := by simpa using hnew
      rcases hplain with hnone | ⟨tag, hl, -, he⟩
      · simp [hnone] at hl'
      · obtain rfl : tag = tag' := by simpa [hl] using hl'
        exact Or.inr (hr ▸ he)
  · obtain ⟨hreg, hpend, hinc⟩ := p.highlight_frame limits region g
    rw [hv]
    refine ⟨hreg ▸ h.turns, hreg ▸ hpend ▸ h.loading, hpend ▸ hinc ▸ h.incomplete, ?_⟩
    rw [hreg, hpend]
    intro hn
    obtain ⟨hr, hall⟩ := h.covered hn
    refine ⟨hr, fun region' hmem tag' hl' => ?_⟩
    rcases List.mem_append.mp hmem with hold | hnew
    · exact hall region' hold tag' hl'
    · obtain rfl : region' = region := by simpa using hnew
      obtain rfl : tag = tag' := by simpa [hl] using hl'
      left
      rw [← hr, hg]
      exact Option.some_ne_none g
  · rw [hv]
    have hne := Progress.await_ne_nil { p with registry := (p.registry.ensureLoaded now tag).2 } l
    refine ⟨h.turns.tail (p.registry.ensureLoaded_turn now tag), ?_, ?_, fun hn => absurd hn hne⟩
    · intro m hm
      rcases Progress.mem_await hm with hold | rfl
      · obtain ⟨failures, hs⟩ := h.loading m hold
        exact ⟨failures, Registry.ensureLoaded_loading now tag hs⟩
      · obtain ⟨hlang, hs⟩ := Registry.ensureLoaded_some he
        rw [hlang]
        exact hs
    · exact iff_of_false Bool.true_eq_false.mp hne

theorem Progress.Waits.foldl {r : Registry} {done : List Region} {p : Progress}
    (h : p.Waits r now done) (rs : List Region) :
    (rs.foldl (Progress.visit limits now) p).Waits r now (done ++ rs) := by
  induction rs generalizing done p with
  | nil => simpa using h
  | cons region rs ih => simpa using ih (h.visit region)

theorem Progress.reachable_visit {p : Progress} (h : p.registry.Reachable) (region : Region) :
    (p.visit limits now region).registry.Reachable := by
  rcases p.visit_cases limits now region with ⟨hv, -⟩ | ⟨tag, g, -, -, hv⟩ | ⟨tag, l, -, -, -, hv⟩
  · rw [hv]
    exact h
  · rw [hv, (p.highlight_frame limits region g).1]
    exact h
  · rw [hv]
    exact h.occur now (.ensure tag)

/-! ### The whole pass -/

section

variable (e : Engine) (r : Registry) (now : Nat) (d : Document)

theorem scan_fits {d : Document} (hd : d.size ≤ positionBound) :
    ∀ region ∈ e.scanner.scan d, region.Fits := by
  intro region hregion
  obtain ⟨b, hb, rfl⟩ := List.mem_map.mp hregion
  obtain ⟨-, hstop⟩ := Document.bounds_of_mem_placeFrom (List.mem_filter.mp hb).1
  have hsize : 0 + Document.sizeOf d.blocks ≤ positionBound := by
    rw [Nat.zero_add]
    exact hd
  simp only [Region.Fits, Region.ofPlaced, Placed.contentStart, Block.size, Block.length] at *
  omega

theorem scan_scratch (known : String → Option Grammar) (limits : Limits) :
    (e.scanner.scan d).flatMap (Region.scratch known limits) =
      d.scratch e.scanner.type known limits := by
  rw [Scanner.scan, List.flatMap_map]
  rfl

theorem waits_foldl :
    ((e.scanner.scan d).foldl (Progress.visit e.limits now)
      { cache := e.cache, registry := r, stats := { regions := (e.scanner.scan d).length } }).Waits
      r now (e.scanner.scan d) := by
  have hstart : Progress.Waits r now []
      { cache := e.cache, registry := r, stats := { regions := (e.scanner.scan d).length } } :=
    ⟨.refl, by simp, by simp, by simp⟩
  exact hstart.foldl (e.scanner.scan d)

/-- The loads of a pass are under way at its end, and there are some if and only if the pass is
incomplete. -/
theorem recompute_waits :
    r.Turns (e.recompute r now d).2.2 ∧
      (∀ l ∈ (e.recompute r now d).1.pending, ∃ failures,
        (e.recompute r now d).2.2.slots.get? l.language = some (.loading failures l.id)) ∧
      ((e.recompute r now d).1.incomplete = false ↔ (e.recompute r now d).1.pending = []) := by
  have h := e.waits_foldl r now d
  exact ⟨h.turns, h.loading, h.incomplete⟩

/-- A complete pass leaves the registry alone, and no block of the region type lacks a grammar that
could be loaded. -/
theorem recompute_covered (h : (e.recompute r now d).1.incomplete = false) :
    (e.recompute r now d).2.2 = r ∧
      ∀ b ∈ d.blocks, b.type = e.scanner.type → ∀ tag, b.language = some tag →
        Language.isPlain tag = false →
          r.grammar? tag ≠ none ∨ (r.ensureLoaded now tag).1 = none := by
  have hn := (e.recompute_waits r now d).2.2.mp h
  obtain ⟨hr, hall⟩ := (e.waits_foldl r now d).covered hn
  refine ⟨hr, fun b hb htype tag hl hplain => ?_⟩
  obtain ⟨i, hi, rfl⟩ := List.getElem_of_mem hb
  have hp : (⟨0 + Document.sizeOf (d.blocks.take i), d.blocks[i]⟩ : Placed) ∈ d.placed := by
    apply List.mem_of_getElem? (i := i)
    rw [Document.placed, Document.getElem?_placeFrom, List.getElem?_eq_getElem hi]
    rfl
  have hmem : Region.ofPlaced ⟨0 + Document.sizeOf (d.blocks.take i), d.blocks[i]⟩ ∈
      e.scanner.scan d :=
    List.mem_map_of_mem (List.mem_filter.mpr ⟨hp, by simpa using htype⟩)
  exact hall _ (by simpa using hmem) tag ((Region.language?_eq_some_iff _ tag).mpr ⟨hl, hplain⟩)

theorem reachable_recompute {r : Registry} (h : r.Reachable) :
    (e.recompute r now d).2.2.Reachable := by
  refine List.foldlRecOn (motive := fun p : Progress => p.registry.Reachable) (e.scanner.scan d)
    (Progress.visit e.limits now) h ?_
  intro p hp region _
  exact Progress.reachable_visit hp region

variable {e r d}

/-- With a fresh cache a pass gives the decorations from scratch, and the cache stays fresh. -/
theorem recompute_scratch (h : e.cache.Fresh r.grammar? e.limits)
    (hd : d.size ≤ positionBound) :
    (e.recompute r now d).1.decorations.toList = d.scratch e.scanner.type r.grammar? e.limits ∧
      (e.recompute r now d).2.2.grammar? = r.grammar? ∧
      (e.recompute r now d).2.1.cache.Fresh r.grammar? e.limits := by
  have hstart : Progress.Right r.grammar? e.limits []
      { cache := e.cache, registry := r, stats := { regions := (e.scanner.scan d).length } } :=
    ⟨rfl, h, rfl⟩
  obtain ⟨hknown, hfresh, hds⟩ := hstart.foldl now (e.scan_fits hd)
  rw [List.nil_append, scan_scratch] at hds
  refine ⟨?_, hknown, hfresh.prune _⟩
  have hsorted : (DecorationSet.ofList (d.scratch e.scanner.type r.grammar? e.limits)).toList =
      d.scratch e.scanner.type r.grammar? e.limits := Document.ofList_scratchFrom 0 d.blocks
  simp only [recompute]
  rw [hds, hsorted]

end

end Engine

end Highlight
