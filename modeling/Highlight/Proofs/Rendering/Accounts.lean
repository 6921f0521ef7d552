import Highlight.Proofs.Rendering.Treatments

/-!
# The accounts of a pass

A pass counts each region once, and what it counts a region under depends on the registry that it
began with only, although it starts loads on the way.  All that it can do to a tag is to make it
load, so a region that comes later meets the same kind of status as the first one of its language.
The loads in hand are one for each language that some region waits for.
-/

namespace Highlight

namespace GrammarStatus

/-- No grammar comes by waiting. -/
def isHopeless : GrammarStatus → Bool
  | unknown => true
  | gaveUp _ => true
  | _ => false

/-- A grammar is on its way, or can be sent for. -/
def isAwaited : GrammarStatus → Bool
  | unregistered _ => true
  | loading => true
  | _ => false

theorem isAwaited_of_isHopeless {s : GrammarStatus} (h : s.isHopeless = true) :
    s.isAwaited = false := by
  cases s <;> first | rfl | exact absurd h Bool.false_ne_true

theorem isHopeless_of_isAwaited {s : GrammarStatus} (h : s.isAwaited = true) :
    s.isHopeless = false := by
  cases s <;> first | rfl | exact absurd h Bool.false_ne_true

end GrammarStatus

namespace Region

variable {r : Registry} {region : Region} {tag : String}

def staysPlain (r : Registry) (region : Region) : Bool :=
  region.language.all fun tag => Language.isPlain tag || (r.status tag).isHopeless

/-- The language whose grammar the region waits for, if it has to wait. -/
def awaited? (r : Registry) (region : Region) : Option String :=
  region.language.filter fun tag => (r.status tag).isAwaited

end Region

namespace Registry

variable {r r' : Registry} {tag : String}

theorem Turns.status_eq (t : r.Turns r') (h : r'.slots.get? tag = r.slots.get? tag) :
    r'.status tag = r.status tag := by
  unfold status loaderFor?
  rw [h, t.loaders_eq, t.retry_eq]

theorem isPlain_of_isAwaited (h : (r.status tag).isAwaited = true) :
    Language.isPlain tag = false := by
  cases hplain : Language.isPlain tag with
  | false => rfl
  | true =>
      rw [status_of_isPlain hplain] at h
      exact absurd h Bool.false_ne_true

theorem status_of_grammar? (hplain : Language.isPlain tag = false) {g : Grammar}
    (h : r.grammar? tag = some g) : r.status tag = .registered := by
  rw [grammar?_eq_some_iff] at h
  simp only [status, hplain, h, Bool.false_eq_true, if_false]

theorem isAwaited_of_ensureLoaded {now : Nat} {l : Load} (h : (r.ensureLoaded now tag).1 = some l) :
    (r.status tag).isAwaited = true := by
  rcases r.ensureLoaded_cases now tag with ⟨-, hl⟩ | ⟨f, w, loader, hplain, hawaits, hloader, -⟩
  · rw [(hl l h).2.1]
    rfl
  · rw [hawaits.status_eq hplain hloader]
    rfl

theorem Hopeless.isHopeless (h : r.Hopeless tag) : (r.status tag).isHopeless = true := by
  rcases h with hs | ⟨failures, hs⟩ <;> rw [hs] <;> rfl

end Registry

namespace Region

variable {r : Registry} {region : Region} {tag : String}

theorem staysPlain_of_language?_none (h : region.language? = none) :
    region.staysPlain r = true ∧ region.awaited? r = none := by
  have hplain : ∀ tag, region.language = some tag → Language.isPlain tag = true := by
    simpa [language?, Option.filter_eq_none_iff] using h
  constructor
  · rw [staysPlain, Option.all_eq_true]
    intro tag htag
    rw [hplain tag htag, Bool.true_or]
  · rw [awaited?, Option.filter_eq_none_iff]
    intro tag htag
    rw [Registry.status_of_isPlain (hplain tag htag)]
    exact Bool.false_ne_true

theorem staysPlain_of_language? (h : region.language? = some tag) :
    region.staysPlain r = (r.status tag).isHopeless := by
  obtain ⟨hl, hplain⟩ := (region.language?_eq_some_iff tag).mp h
  simp only [staysPlain, hl, Option.all_some, hplain, Bool.false_or]

theorem awaited?_of_language? (h : region.language? = some tag) :
    region.awaited? r = if (r.status tag).isAwaited then some tag else none := by
  rw [awaited?, ((region.language?_eq_some_iff tag).mp h).1, Option.filter_some]

theorem filterMap_awaited?_concat (done : List Region) (h : region.awaited? r = none) :
    (done ++ [region]).filterMap (awaited? r) = done.filterMap (awaited? r) := by
  rw [List.filterMap_append, List.filterMap_cons_none h, List.filterMap_nil, List.append_nil]

theorem countP_staysPlain_concat (done : List Region) (region : Region) :
    (done ++ [region]).countP (staysPlain r) =
      done.countP (staysPlain r) + if region.staysPlain r then 1 else 0 := by
  rw [List.countP_append, List.countP_singleton]

end Region

/-- A load that is waited for: its tag is loading under its number.  An old number was that of a
load under way, and a new one is that of a load which could begin. -/
structure Load.InHand (r r' : Registry) (l : Load) : Prop where
  loading : ∃ failures, r'.slots.get? l.language = some (.loading failures l.id)
  old : l.id < r.nextId → ∃ failures, r.slots.get? l.language = some (.loading failures l.id)
  new : r.nextId ≤ l.id → ∃ failures, r.status l.language = .unregistered failures

namespace Engine

variable {limits : Limits} {now : Nat} {r : Registry} {region : Region} {p : Progress}

/-- What happens to a region depends on the status of its language. -/
theorem Progress.visit_exits (hs : p.registry.Sound) (limits : Limits) (now : Nat)
    (region : Region) :
    (p.visit limits now region = p.leavePlain ∧
      region.staysPlain p.registry = true ∧ region.awaited? p.registry = none) ∨
    (∃ g, p.visit limits now region = p.highlight limits region g ∧
      region.staysPlain p.registry = false ∧ region.awaited? p.registry = none) ∨
    ∃ tag l, p.visit limits now region =
        { p with registry := (p.registry.ensureLoaded now tag).2 }.await l ∧
      (p.registry.ensureLoaded now tag).1 = some l ∧
      region.staysPlain p.registry = false ∧ region.awaited? p.registry = some tag := by
  rcases p.visit_cases limits now region with
    ⟨hv, hplain⟩ | ⟨tag, g, hl, hg, hv⟩ | ⟨tag, l, hl, -, he, hv⟩
  · refine Or.inl ⟨hv, ?_⟩
    rcases hplain with hnone | ⟨tag, hl, hg, he⟩
    · exact Region.staysPlain_of_language?_none hnone
    · have hhopeless : (p.registry.status tag).isHopeless = true :=
        (hs.hopeless_of_ensureLoaded hg he ((region.language?_eq_some_iff tag).mp hl).2).isHopeless
      rw [Region.staysPlain_of_language? hl, Region.awaited?_of_language? hl,
        GrammarStatus.isAwaited_of_isHopeless hhopeless]
      exact ⟨hhopeless, rfl⟩
  · have hstatus := Registry.status_of_grammar? ((region.language?_eq_some_iff tag).mp hl).2 hg
    refine Or.inr (Or.inl ⟨g, hv, ?_⟩)
    rw [Region.staysPlain_of_language? hl, Region.awaited?_of_language? hl, hstatus]
    exact ⟨rfl, rfl⟩
  · have hawaited := Registry.isAwaited_of_ensureLoaded he
    refine Or.inr (Or.inr ⟨tag, l, hv, he, ?_⟩)
    rw [Region.staysPlain_of_language? hl, Region.awaited?_of_language? hl, if_pos hawaited]
    exact ⟨GrammarStatus.isHopeless_of_isAwaited hawaited, rfl⟩

/-! ### Loads in hand -/

/-- The loads in hand after regions that wait for the tags, in a pass that began with the registry
`r`. -/
structure Progress.Holds (r : Registry) (tags : List String) (p : Progress) : Prop where
  turns : r.Turns p.registry
  awaited : ∀ tag ∈ tags, (r.status tag).isAwaited = true
  slots_eq : ∀ tag, tag ∉ tags → p.registry.slots.get? tag = r.slots.get? tag
  languages_eq : p.pending.map (·.language) = tags.eraseDups
  ids_nodup : (p.pending.map (·.id)).Nodup
  inHand : ∀ l ∈ p.pending, l.InHand r p.registry
  tasks_eq : p.registry.tasks.map (·.load) =
    r.tasks.map (·.load) ++ p.pending.filter (r.nextId ≤ ·.id)

namespace Progress.Holds

variable {tags : List String} {tag : String}

theorem mem_tags (h : p.Holds r tags) {l : Load} (hl : l ∈ p.pending) : l.language ∈ tags := by
  rw [← List.mem_eraseDups, ← h.languages_eq]
  exact List.mem_map_of_mem hl

theorem exists_load (h : p.Holds r tags) (htag : tag ∈ tags) :
    ∃ l ∈ p.pending, ∃ failures, p.registry.slots.get? tag = some (.loading failures l.id) := by
  rw [← List.mem_eraseDups, ← h.languages_eq] at htag
  obtain ⟨l, hl, rfl⟩ := List.mem_map.mp htag
  exact ⟨l, hl, (h.inHand l hl).loading⟩

theorem status_of_mem (h : p.Holds r tags) (htag : tag ∈ tags) :
    p.registry.status tag = .loading := by
  obtain ⟨l, -, failures, hslot⟩ := h.exists_load htag
  exact Registry.status_of_loading (Registry.isPlain_of_isAwaited (h.awaited _ htag)) hslot

theorem status_of_not_mem (h : p.Holds r tags) (htag : tag ∉ tags) :
    p.registry.status tag = r.status tag :=
  h.turns.status_eq (h.slots_eq tag htag)

/-- The loads on the way make no difference to the kind of a status. -/
theorem status_kind_eq (h : p.Holds r tags) (tag : String) :
    (p.registry.status tag).isHopeless = (r.status tag).isHopeless ∧
      (p.registry.status tag).isAwaited = (r.status tag).isAwaited := by
  by_cases htag : tag ∈ tags
  · have hawaited := h.awaited tag htag
    rw [h.status_of_mem htag, hawaited, GrammarStatus.isHopeless_of_isAwaited hawaited]
    exact ⟨rfl, rfl⟩
  · rw [h.status_of_not_mem htag]
    exact ⟨rfl, rfl⟩

theorem staysPlain_eq (h : p.Holds r tags) (region : Region) :
    region.staysPlain p.registry = region.staysPlain r := by
  simp only [Region.staysPlain, fun tag => (h.status_kind_eq tag).1]

theorem awaited?_eq (h : p.Holds r tags) (region : Region) :
    region.awaited? p.registry = region.awaited? r := by
  simp only [Region.awaited?, fun tag => (h.status_kind_eq tag).2]

theorem congr (h : p.Holds r tags) {q : Progress} (hreg : q.registry = p.registry)
    (hpend : q.pending = p.pending) : q.Holds r tags := by
  cases q
  subst hreg hpend
  exact ⟨h.turns, h.awaited, h.slots_eq, h.languages_eq, h.ids_nodup, h.inHand, h.tasks_eq⟩

/-- A second region of a language shares the load. -/
theorem await_again (h : p.Holds r tags) (htag : tag ∈ tags) {l m : Load} (hm : m ∈ p.pending)
    (hid : m.id = l.id) : (p.await l).Holds r (tags ++ [tag]) := by
  have hpending : (p.await l).pending = p.pending := by
    apply if_pos
    exact List.any_eq_true.mpr ⟨m, hm, beq_iff_eq.mpr hid⟩
  have hdups : (tags ++ [tag]).eraseDups = tags.eraseDups := by
    simp [List.eraseDups_append, List.removeAll, htag]
  refine ⟨h.turns, ?_, ?_, ?_, ?_, ?_, ?_⟩
  · exact List.forall_mem_append.mpr ⟨h.awaited, List.forall_mem_singleton.mpr (h.awaited tag htag)⟩
  · intro tag' hmem
    exact h.slots_eq tag' fun hold => hmem (List.mem_append_left _ hold)
  · rw [hpending, hdups]
    exact h.languages_eq
  · rw [hpending]
    exact h.ids_nodup
  · rw [hpending]
    exact h.inHand
  · rw [hpending]
    exact h.tasks_eq

/-- The first region of a language brings in its load, under way or new. -/
theorem await_first (h : p.Holds r tags) {registry : Registry} {l : Load} (hnew : l.language ∉ tags)
    (hid : ∀ m ∈ p.pending, m.id ≠ l.id) (hawaited : (r.status l.language).isAwaited = true)
    (hturns : r.Turns registry)
    (hslots : ∀ tag, tag ≠ l.language → registry.slots.get? tag = p.registry.slots.get? tag)
    (hl : l.InHand r registry)
    (htasks : registry.tasks.map (·.load) =
      p.registry.tasks.map (·.load) ++ [l].filter (r.nextId ≤ ·.id)) :
    ({ p with registry }.await l).Holds r (tags ++ [l.language]) := by
  have hpending : ({ p with registry }.await l).pending = p.pending ++ [l] := by
    apply if_neg
    simpa using hid
  have hdups : (tags ++ [l.language]).eraseDups = tags.eraseDups ++ [l.language] := by
    simp [List.eraseDups_append, List.removeAll, hnew, List.eraseDups_cons]
  refine ⟨hturns, ?_, ?_, ?_, ?_, ?_, ?_⟩
  · exact List.forall_mem_append.mpr ⟨h.awaited, List.forall_mem_singleton.mpr hawaited⟩
  · intro tag hmem
    rw [List.mem_append, List.mem_singleton, not_or] at hmem
    exact (hslots tag hmem.2).trans (h.slots_eq tag hmem.1)
  · rw [hpending, hdups, List.map_append, h.languages_eq]
    rfl
  · rw [hpending, List.map_append]
    refine List.nodup_append.mpr ⟨h.ids_nodup, List.pairwise_singleton _ _, ?_⟩
    simpa using hid
  · rw [hpending]
    refine List.forall_mem_append.mpr ⟨fun m hm => ?_, List.forall_mem_singleton.mpr hl⟩
    have hne : m.language ≠ l.language := fun heq => hnew (heq ▸ h.mem_tags hm)
    obtain ⟨hloading, hearlier, hstarted⟩ := h.inHand m hm
    exact ⟨hslots m.language hne ▸ hloading, hearlier, hstarted⟩
  · rw [hpending, List.filter_append, ← List.append_assoc, ← h.tasks_eq]
    exact htasks

/-- Whatever asking for a grammar brings, it is the load of the tag. -/
theorem await (hr : r.Sound) (h : p.Holds r tags) {l : Load}
    (he : (p.registry.ensureLoaded now tag).1 = some l) :
    ({ p with registry := (p.registry.ensureLoaded now tag).2 }.await l).Holds r
      (tags ++ [tag]) := by
  have hs : p.registry.Sound := h.turns.sound hr
  have hturn := p.registry.ensureLoaded_turn now tag
  have hawaited : (p.registry.status tag).isAwaited = true := Registry.isAwaited_of_ensureLoaded he
  rw [(h.status_kind_eq tag).2] at hawaited
  rcases p.registry.ensureLoaded_cases now tag with
    ⟨hsame, hl⟩ | ⟨failures, w, loader, hplain, hawaits, hloader, hstart⟩
  · obtain ⟨rfl, hstatus, failures, hslot⟩ := hl l he
    rw [hsame]
    by_cases htag : l.language ∈ tags
    · -- the load in hand is the one that the slot names
      obtain ⟨m, hm, failures', hslot'⟩ := h.exists_load htag
      rw [hslot] at hslot'
      obtain ⟨-, hid⟩ : failures = failures' ∧ l.id = m.id := by simpa using hslot'
      exact h.await_again htag hm hid.symm
    · have hold : r.slots.get? l.language = some (.loading failures l.id) :=
        (h.slots_eq l.language htag) ▸ hslot
      refine h.await_first htag ?_ hawaited h.turns (fun _ _ => rfl) ?_ ?_
      · intro m hm hid
        obtain ⟨failures', hslot'⟩ := (h.inHand m hm).loading
        exact htag (hs.loading_unique (hid ▸ hslot') hslot ▸ h.mem_tags hm)
      · refine ⟨⟨failures, hslot⟩, fun _ => ⟨failures, hold⟩, fun hnew => ?_⟩
        exact absurd (hr.loading_lt hold) (Nat.not_lt.mpr hnew)
      · simp [hr.loading_lt hold]
  · -- a load begins: the tag was not loading, so no region so far waits for it
    have htag : tag ∉ tags := by
      intro hmem
      obtain ⟨m, -, failures', hslot⟩ := h.exists_load hmem
      exact hawaits.not_loading failures' m.id hslot
    rw [hstart] at he hturn ⊢
    obtain rfl : (⟨p.registry.nextId, tag⟩ : Load) = l := Option.some.inj he
    have hnextId : r.nextId ≤ p.registry.nextId := h.turns.nextId_le
    refine h.await_first (l := ⟨p.registry.nextId, tag⟩) htag ?_ hawaited
      (h.turns.tail hturn) ?_ ?_ ?_
    · intro m hm hid
      obtain ⟨failures', hslot⟩ := (h.inHand m hm).loading
      exact absurd (hs.loading_lt hslot) (Nat.not_lt.mpr (Nat.le_of_eq hid.symm))
    · intro tag' hne
      exact Table.get?_insert_of_ne _ _ hne
    · have hstatus : r.status tag = .unregistered failures := by
        rw [← h.status_of_not_mem htag]
        exact hawaits.status_eq hplain hloader
      refine ⟨⟨failures, Table.get?_insert_self ..⟩, fun hold => ?_, fun _ => ⟨failures, hstatus⟩⟩
      exact absurd hold (Nat.not_lt.mpr hnextId)
    · simp [Registry.start, hnextId]

end Progress.Holds

/-! ### Counts -/

theorem Progress.highlight_stats (p : Progress) (limits : Limits) (region : Region) (g : Grammar) :
    (p.highlight limits region g).stats.regions = p.stats.regions ∧
      (p.highlight limits region g).stats.plain = p.stats.plain ∧
      (p.highlight limits region g).stats.awaiting = p.stats.awaiting ∧
      (p.highlight limits region g).stats.cacheHits +
        (p.highlight limits region g).stats.tokenized =
        p.stats.cacheHits + p.stats.tokenized + 1 ∧
      (p.stats.failed ≤ p.stats.tokenized →
        (p.highlight limits region g).stats.failed ≤
          (p.highlight limits region g).stats.tokenized) := by
  unfold highlight
  split
  · exact ⟨rfl, rfl, rfl, Nat.add_right_comm _ _ _, id⟩
  · refine ⟨rfl, rfl, rfl, rfl, fun hle => Nat.add_le_add hle ?_⟩
    split <;> decide

/-- The books after some regions, in a pass that began with the registry `r`. -/
structure Progress.Accounts (r : Registry) (total : Nat) (done : List Region) (p : Progress) :
    Prop where
  holds : p.Holds r (done.filterMap (Region.awaited? r))
  regions_eq : p.stats.regions = total
  each_once : p.stats.cacheHits + p.stats.tokenized + p.stats.plain + p.stats.awaiting = done.length
  failed_le : p.stats.failed ≤ p.stats.tokenized
  plain_eq : p.stats.plain = done.countP (Region.staysPlain r)
  awaiting_eq : p.stats.awaiting = (done.filterMap (Region.awaited? r)).length
  incomplete_iff : p.incomplete = true ↔ 0 < p.stats.awaiting

namespace Progress.Accounts

variable {total : Nat} {done : List Region}

theorem leavePlain (h : p.Accounts r total done) (hp : region.staysPlain r = true)
    (ha : region.awaited? r = none) : p.leavePlain.Accounts r total (done ++ [region]) := by
  have htags := Region.filterMap_awaited?_concat done ha
  have hcount := Region.countP_staysPlain_concat (r := r) done region
  rw [hp, if_pos rfl] at hcount
  constructor
  · rw [htags]
    exact h.holds.congr rfl rfl
  · exact h.regions_eq
  · rw [List.length_append, ← h.each_once]
    exact Nat.add_right_comm _ 1 _
  · exact h.failed_le
  · rw [hcount, ← h.plain_eq]
    rfl
  · rw [htags]
    exact h.awaiting_eq
  · exact h.incomplete_iff

theorem highlight (h : p.Accounts r total done) (hp : region.staysPlain r = false)
    (ha : region.awaited? r = none) (g : Grammar) :
    (p.highlight limits region g).Accounts r total (done ++ [region]) := by
  obtain ⟨hreg, hpend, hinc⟩ := p.highlight_frame limits region g
  obtain ⟨hregions, hplain, hawaiting, hsum, hfailed⟩ := p.highlight_stats limits region g
  have htags := Region.filterMap_awaited?_concat done ha
  have hcount := Region.countP_staysPlain_concat (r := r) done region
  rw [hp, if_neg Bool.false_ne_true, Nat.add_zero] at hcount
  constructor
  · rw [htags]
    exact h.holds.congr hreg hpend
  · rw [hregions, h.regions_eq]
  · rw [hplain, hawaiting, hsum, List.length_append, ← h.each_once, List.length_singleton]
    omega
  · exact hfailed h.failed_le
  · rw [hplain, hcount, h.plain_eq]
  · rw [hawaiting, htags, h.awaiting_eq]
  · rw [hinc, hawaiting]
    exact h.incomplete_iff

theorem await (hr : r.Sound) (h : p.Accounts r total done) (hp : region.staysPlain r = false)
    {tag : String} (ha : region.awaited? r = some tag) {l : Load}
    (he : (p.registry.ensureLoaded now tag).1 = some l) :
    ({ p with registry := (p.registry.ensureLoaded now tag).2 }.await l).Accounts r total
      (done ++ [region]) := by
  have htags : (done ++ [region]).filterMap (Region.awaited? r) =
      done.filterMap (Region.awaited? r) ++ [tag] := by
    rw [List.filterMap_append, List.filterMap_cons_some ha, List.filterMap_nil]
  have hcount := Region.countP_staysPlain_concat (r := r) done region
  rw [hp, if_neg Bool.false_ne_true, Nat.add_zero] at hcount
  constructor
  · rw [htags]
    exact h.holds.await hr he
  · exact h.regions_eq
  · rw [List.length_append, ← h.each_once]
    rfl
  · exact h.failed_le
  · rw [hcount]
    exact h.plain_eq
  · rw [htags, List.length_append, ← h.awaiting_eq]
    rfl
  · exact iff_of_true rfl (Nat.succ_pos _)

theorem visit (hr : r.Sound) (h : p.Accounts r total done) (region : Region) :
    (p.visit limits now region).Accounts r total (done ++ [region]) := by
  have hexits := p.visit_exits (h.holds.turns.sound hr) limits now region
  rw [h.holds.staysPlain_eq, h.holds.awaited?_eq] at hexits
  rcases hexits with ⟨hv, hp, ha⟩ | ⟨g, hv, hp, ha⟩ | ⟨tag, l, hv, he, hp, ha⟩
  · rw [hv]
    exact h.leavePlain hp ha
  · rw [hv]
    exact h.highlight hp ha g
  · rw [hv]
    exact h.await hr hp ha he

theorem foldl (hr : r.Sound) (h : p.Accounts r total done) (regions : List Region) :
    (regions.foldl (Progress.visit limits now) p).Accounts r total (done ++ regions) := by
  induction regions generalizing done p with
  | nil => simpa using h
  | cons region regions ih => simpa using ih (h.visit hr region)

end Progress.Accounts

theorem accounts_foldl (hr : r.Sound) (e : Engine) (now : Nat) (d : Document) :
    ((e.scanner.scan d).foldl (Progress.visit e.limits now) (e.begin r d)).Accounts r
      (e.scanner.scan d).length (e.scanner.scan d) := by
  have hnone : (e.begin r d).Holds r [] :=
    ⟨.refl, by simp, fun _ _ => rfl, rfl, List.nodup_nil, by simp [begin], by simp [begin]⟩
  have hstart : (e.begin r d).Accounts r (e.scanner.scan d).length [] :=
    ⟨hnone, rfl, rfl, Nat.le_refl _, rfl, rfl, by simp [begin]⟩
  exact hstart.foldl hr (e.scanner.scan d)

/-- The books of a pass are right.  Each region is counted once, under what the registry said of its
language when the pass began; the loads to wait for are one for each language that some region
awaits; and nothing else happens to the registry than that these languages load. -/
theorem pass_accounts_for_every_region (e : Engine) {r : Registry} (hr : r.Reachable) (now : Nat)
    (d : Document) :
    let regions := e.scanner.scan d
    let awaited := regions.filterMap (Region.awaited? r)
    let pass := (e.recompute r now d).1
    let r' := (e.recompute r now d).2.2
    (pass.stats.regions = regions.length ∧
        pass.stats.regions = pass.stats.cacheHits + pass.stats.tokenized + pass.stats.plain +
          pass.stats.awaiting ∧
        pass.stats.failed ≤ pass.stats.tokenized ∧
        pass.stats.plain = regions.countP (Region.staysPlain r) ∧
        pass.stats.awaiting = awaited.length) ∧
      ((pass.incomplete = true ↔ 0 < pass.stats.awaiting) ∧
        (pass.incomplete = true ↔ pass.pending ≠ [])) ∧
      (pass.pending.map (·.language) = awaited.eraseDups ∧ (pass.pending.map (·.id)).Nodup) ∧
      (∀ l ∈ pass.pending,
        (r'.status l.language = .loading ∧
          ∃ failures, r'.slots.get? l.language = some (.loading failures l.id)) ∧
        (l.id < r.nextId → r.status l.language = .loading ∧
          ∃ failures, r.slots.get? l.language = some (.loading failures l.id)) ∧
        (r.nextId ≤ l.id → ∃ failures, r.status l.language = .unregistered failures)) ∧
      r'.tasks.map (·.load) = r.tasks.map (·.load) ++ pass.pending.filter (r.nextId ≤ ·.id) ∧
      ∀ tag, tag ∉ awaited → r'.status tag = r.status tag := by
  obtain ⟨hholds, hregions, honce, hfailed, hplain, hawaiting, hincomplete⟩ :=
    accounts_foldl hr.sound e now d
  refine ⟨⟨hregions, hregions.trans honce.symm, hfailed, hplain, hawaiting⟩, ⟨hincomplete, ?_⟩,
    ⟨hholds.languages_eq, hholds.ids_nodup⟩, ?_, hholds.tasks_eq,
    fun tag => hholds.status_of_not_mem⟩
  · rw [ne_eq, ← (e.recompute_waits r now d).2.2, Bool.not_eq_false]
  · intro l hl
    have hmem := hholds.mem_tags hl
    obtain ⟨hloading, hold, hnew⟩ := hholds.inHand l hl
    refine ⟨⟨hholds.status_of_mem hmem, hloading⟩, fun hlt => ?_, hnew⟩
    obtain ⟨failures, hslot⟩ := hold hlt
    have hplain := Registry.isPlain_of_isAwaited (hholds.awaited _ hmem)
    exact ⟨Registry.status_of_loading hplain hslot, failures, hslot⟩

/-- A language is waited for twice, one is being loaded already, one was given up and one is not
known. -/
theorem pass_with_all_kinds_of_regions :
    let loader : Loader := ⟨fun tag => tag != "u", fun tag => .error (.notFound tag)⟩
    let r := Registry.after { loaders := [loader], retry := { maxAttempts := 1 } }
      [(0, .register "x" .whole), (0, .ensure "z"), (0, .finish 1 (.error (.notFound "z"))),
        (0, .ensure "b")]
    let code (id : NodeId) (language : Option String) : Block := { id, language, text := "ab" }
    let d : Document :=
      ⟨[code 1 (some "x"), code 2 (some "a"), code 3 (some "z"), code 4 (some "b"), code 5 none,
        code 6 (some "a"), code 7 (some "none"), code 8 (some "u")]⟩
    let e : Engine := { scanner := {}, limits := {} }
    let pass := (e.recompute r 0 d).1
    let r' := (e.recompute r 0 d).2.2
    r.Reachable ∧ pass.stats = { regions := 8, tokenized := 1, plain := 4, awaiting := 3 } ∧
      pass.pending = [⟨3, "a"⟩, ⟨2, "b"⟩] ∧ r.status "z" = .gaveUp 1 ∧ r'.status "z" = .gaveUp 1 ∧
      r.status "a" = .unregistered 0 ∧ r'.status "a" = .loading ∧
      r'.tasks.map (·.load) = r.tasks.map (·.load) ++ [⟨3, "a"⟩] := by
  intro loader r code d e pass r'
  have hr : r.Reachable := ⟨_, _, _, rfl⟩
  obtain ⟨-, -, -, hloads, htasks, hother⟩ := pass_accounts_for_every_region e hr 0 d
  have hstats : pass.stats = { regions := 8, tokenized := 1, plain := 4, awaiting := 3 } := by
    decide +kernel
  have hpending : pass.pending = [⟨3, "a"⟩, ⟨2, "b"⟩] := by decide +kernel
  have hstart : r.nextId = 3 ∧ r.status "z" = .gaveUp 1 ∧ r.status "a" = .unregistered 0 := by
    decide +kernel
  have hz : "z" ∉ (e.scanner.scan d).filterMap (Region.awaited? r) := by decide +kernel
  have ha : (⟨3, "a"⟩ : Load) ∈ pass.pending := hpending ▸ List.mem_cons_self
  refine ⟨hr, hstats, hpending, hstart.2.1, (hother "z" hz).trans hstart.2.1, hstart.2.2,
    (hloads _ ha).1.1, htasks.trans ?_⟩
  rw [show (e.recompute r 0 d).1.pending = [⟨3, "a"⟩, ⟨2, "b"⟩] from hpending, hstart.1]
  rfl

end Engine

end Highlight
