import Highlight.Proofs.Registry.Journal
import Highlight.Registry.Depot
import Mathlib.Data.List.Nodup

/-!
# Loads in flight

Each load that was started is either the current load of its tag, with one task that will report for
it, or it is over and has its outcome.  So no tag is loaded twice at a time, no tag waits for a load
that nobody is going to end, and what a handle says agrees with what the registry says.  `Manned` is
the invariant behind this.
-/

namespace Highlight.Registry

variable {r r' : Registry} {loads : List Load} {now : Nat} {e : RegistryEvent}
  {n : Option RegistryNote}

theorem filter_eq_singleton_of_nodup {α β : Type} [DecidableEq β] (key : α → β) {xs : List α}
    (h : (xs.map key).Nodup) {x : α} (hx : x ∈ xs) : xs.filter (key · == key x) = [x] := by
  induction xs with
  | nil => simp at hx
  | cons y ys ih =>
      obtain ⟨hy, hys⟩ := List.nodup_cons.mp h
      rcases List.mem_cons.mp hx with rfl | hx
      · have hnone : ys.filter (key · == key x) = [] := by
          rw [List.filter_eq_nil_iff]
          intro z hz heq
          exact hy ((beq_iff_eq.mp heq) ▸ List.mem_map_of_mem hz)
        simp [hnone]
      · have hne : key y ≠ key x := fun heq => hy (heq ▸ List.mem_map_of_mem hx)
        simpa [List.filter_cons, hne] using ih hys hx

theorem find?_eq_some_of_nodup {α β : Type} [DecidableEq β] (key : α → β) {xs : List α}
    (h : (xs.map key).Nodup) {x : α} (hx : x ∈ xs) : xs.find? (key · == key x) = some x := by
  rw [← List.head?_filter, filter_eq_singleton_of_nodup key h hx, List.head?_cons]

/-- The loads that were started, against the slots, the tasks and the outcomes of the registry. -/
structure Manned (r : Registry) (loads : List Load) : Prop where
  sound : r.Sound
  ids_eq : loads.map Load.id = List.range' 1 loads.length
  nextId_eq : r.nextId = loads.length + 1
  task_ids : (r.tasks.map fun t => t.load.id).Nodup
  task_started : ∀ t ∈ r.tasks, t.load ∈ loads
  not_plain : ∀ {tag f id}, r.slots.get? tag = some (.loading f id) →
    Language.isPlain tag = false
  manned : ∀ {tag f id}, r.slots.get? tag = some (.loading f id) →
    ∃ t ∈ r.tasks, t.load = ⟨id, tag⟩
  current : ∀ l ∈ loads, r.outcome? l = none →
    ∃ failures, r.slots.get? l.language = some (.loading failures l.id)
  ready : ∀ l ∈ loads, r.outcome? l = some (.ok ()) →
    ∃ g, r.slots.get? l.language = some (.registered g)

theorem manned_new (loaders : List Loader) (retry : RetryPolicy) :
    Manned { loaders, retry } [] where
  sound := sound_new loaders retry
  ids_eq := rfl
  nextId_eq := rfl
  task_ids := List.nodup_nil
  task_started := by simp
  not_plain := by simp [Table.get?]
  manned := by simp [Table.get?]
  current := by simp
  ready := by simp

theorem Manned.ids_nodup (h : Manned r loads) : (loads.map Load.id).Nodup := by
  rw [h.ids_eq]
  exact List.nodup_range'

theorem Manned.eq_of_id_eq (h : Manned r loads) {l m : Load} (hl : l ∈ loads) (hm : m ∈ loads)
    (hid : l.id = m.id) : l = m :=
  List.inj_on_of_nodup_map h.ids_nodup hl hm hid

theorem Manned.id_lt (h : Manned r loads) {l : Load} (hl : l ∈ loads) : l.id < r.nextId := by
  have hmem : l.id ∈ loads.map Load.id := List.mem_map_of_mem hl
  rw [h.ids_eq, List.mem_range'_1] at hmem
  rw [h.nextId_eq]
  omega

theorem Manned.loading_started (h : Manned r loads) {tag : String} {f id : Nat}
    (hslot : r.slots.get? tag = some (.loading f id)) : (⟨id, tag⟩ : Load) ∈ loads := by
  obtain ⟨t, ht, hload⟩ := h.manned hslot
  exact hload ▸ h.task_started t ht

theorem Manned.task_eq (h : Manned r loads) {t t' : LoadTask} (ht : t ∈ r.tasks)
    (ht' : t' ∈ r.tasks) (hid : t.load.id = t'.load.id) : t = t' :=
  List.inj_on_of_nodup_map h.task_ids ht ht' hid

theorem Manned.find_task (h : Manned r loads) {t : LoadTask} (ht : t ∈ r.tasks) :
    r.tasks.find? (·.load.id == t.load.id) = some t :=
  find?_eq_some_of_nodup (fun t : LoadTask => t.load.id) h.task_ids ht

/-! ### What each effect does -/

theorem Manned.start (h : Manned r loads) {language : String} {failures : Nat}
    {retryAt : Option Nat} {loader : Loader} (hplain : Language.isPlain language = false)
    (hslot : r.Awaits language failures retryAt) (hloader : r.loaderFor? language = some loader)
    (now : Nat) :
    Manned (r.start now language failures retryAt loader).2 (loads ++ [⟨r.nextId, language⟩]) := by
  constructor
  · exact h.sound.start failures _ (by simp [hloader])
  · simp only [List.map_append, h.ids_eq, List.map_cons, List.map_nil, List.length_append,
      List.length_singleton, List.range'_1_concat, h.nextId_eq, Nat.add_comm 1]
  · simp only [Registry.start, List.length_append, List.length_singleton, h.nextId_eq]
  · simp only [Registry.start, List.map_append, List.map_cons, List.map_nil, List.nodup_append,
      List.nodup_singleton, List.mem_map, List.mem_singleton]
    refine ⟨h.task_ids, trivial, ?_⟩
    rintro _ ⟨t, ht, rfl⟩ _ rfl
    exact Nat.ne_of_lt (h.id_lt (h.task_started t ht))
  · intro t ht
    rcases List.mem_append.mp ht with hold | hnew
    · exact List.mem_append_left _ (h.task_started t hold)
    · obtain rfl := List.mem_singleton.mp hnew
      exact List.mem_append_right _ List.mem_cons_self
  · intro tag f id hs
    rcases loading_of_start hs with ⟨rfl, -⟩ | hold
    · exact hplain
    · exact h.not_plain hold
  · intro tag f id hs
    rcases loading_of_start hs with ⟨rfl, rfl⟩ | hold
    · exact ⟨_, List.mem_append_right _ List.mem_cons_self, rfl⟩
    · obtain ⟨t, ht, hload⟩ := h.manned hold
      exact ⟨t, List.mem_append_left _ ht, hload⟩
  · intro l hl hopen
    rcases List.mem_append.mp hl with hold | hnew
    · obtain ⟨f, hs⟩ := h.current l hold hopen
      have hne : l.language ≠ language := fun heq => hslot.not_loading f l.id (heq ▸ hs)
      exact ⟨f, (Table.get?_insert_of_ne _ _ hne).trans hs⟩
    · obtain rfl := List.mem_singleton.mp hnew
      exact ⟨failures, Table.get?_insert_self ..⟩
  · intro l hl hout
    rcases List.mem_append.mp hl with hold | hnew
    · obtain ⟨g, hg⟩ := h.ready l hold hout
      have hne : l.language ≠ language := by
        rintro rfl
        have hnone := hslot.grammar?_eq_none
        simp [grammar?, hg] at hnone
      exact ⟨g, (Table.get?_insert_of_ne _ _ hne).trans hg⟩
    · obtain rfl := List.mem_singleton.mp hnew
      exact absurd (h.sound.outcome_lt hout) (Nat.lt_irrefl _)

/-- The end of a current load.  Its task may stay, to report later without effect. -/
theorem Manned.resolve (h : Manned r loads) {language : String} {failures id : Nat} {slot : Slot}
    {outcome : LoadOutcome} {tasks : List LoadTask}
    (hslot : r.slots.get? language = some (.loading failures id))
    (hend : Settles failures slot outcome) (hsub : tasks.Sublist r.tasks)
    (hkeep : ∀ t ∈ r.tasks, t.load.id ≠ id → t ∈ tasks) :
    Manned
      { r with
        slots := r.slots.insert language slot
        outcomes := r.outcomes.insert id outcome
        tasks } loads := by
  have old : ∀ {tag f i}, (r.slots.insert language slot).get? tag = some (.loading f i) →
      tag ≠ language ∧ r.slots.get? tag = some (.loading f i) :=
    fun hs => loading_of_insert hend.ne_loading hs
  constructor
  · exact h.sound.resolve tasks hslot hend
  · exact h.ids_eq
  · exact h.nextId_eq
  · exact (hsub.map _).nodup h.task_ids
  · exact fun t ht => h.task_started t (hsub.subset ht)
  · exact fun hs => h.not_plain (old hs).2
  · intro tag f i hs
    obtain ⟨hne, hold⟩ := old hs
    obtain ⟨t, ht, hload⟩ := h.manned hold
    have hid : t.load.id ≠ id := by
      rw [hload]
      rintro rfl
      exact hne (h.sound.loading_unique hold hslot)
    exact ⟨t, hkeep t ht hid, hload⟩
  · intro l hl hopen
    simp only [outcome?, Table.get?_insert] at hopen
    split at hopen
    · simp at hopen
    · rename_i hid
      obtain ⟨f, hs⟩ := h.current l hl hopen
      have hne : l.language ≠ language := by
        intro heq
        rw [heq, hslot] at hs
        simp_all
      exact ⟨f, (Table.get?_insert_of_ne _ _ hne).trans hs⟩
  · intro l hl hout
    simp only [outcome?, Table.get?_insert] at hout
    split at hout
    · rename_i hid
      have hload : l = ⟨id, language⟩ := h.eq_of_id_eq hl (h.loading_started hslot) hid
      obtain rfl := Option.some.inj hout
      cases hend with
      | success g => exact ⟨g, hload ▸ Table.get?_insert_self ..⟩
    · obtain ⟨g, hg⟩ := h.ready l hl hout
      have hne : l.language ≠ language := by
        intro heq
        rw [heq, hslot] at hg
        simp at hg
      exact ⟨g, (Table.get?_insert_of_ne _ _ hne).trans hg⟩

theorem Manned.adopt (h : Manned r loads) {language : String} (g : Grammar)
    (hslot : r.slots.get? language = none ∨
      ∃ failures retryAt, r.slots.get? language = some (.unregistered failures retryAt)) :
    Manned { r with slots := r.slots.insert language (.registered g) } loads := by
  have old : ∀ {tag f i},
      (r.slots.insert language (.registered g)).get? tag = some (.loading f i) →
        r.slots.get? tag = some (.loading f i) :=
    fun hs => (loading_of_insert (by simp) hs).2
  constructor
  · exact h.sound.adopt language g
  · exact h.ids_eq
  · exact h.nextId_eq
  · exact h.task_ids
  · exact h.task_started
  · exact fun hs => h.not_plain (old hs)
  · exact fun hs => h.manned (old hs)
  · intro l hl hopen
    obtain ⟨f, hs⟩ := h.current l hl hopen
    have hne : l.language ≠ language := by
      intro heq
      rw [heq] at hs
      rcases hslot with hn | ⟨f', w, hu⟩ <;> simp_all
    exact ⟨f, (Table.get?_insert_of_ne _ _ hne).trans hs⟩
  · intro l hl hout
    by_cases heq : l.language = language
    · exact ⟨g, heq ▸ Table.get?_insert_self ..⟩
    · obtain ⟨g', hg⟩ := h.ready l hl hout
      exact ⟨g', (Table.get?_insert_of_ne _ _ heq).trans hg⟩

/-- A report that comes too late ends a task, but not the task of a current load. -/
theorem Manned.late (h : Manned r loads) {id : Nat} (htask : r.currentTask? id = none) :
    Manned { r with tasks := r.tasks.filter (·.load.id != id) } loads := by
  constructor
  · exact (Turn.idle _).sound h.sound
  · exact h.ids_eq
  · exact h.nextId_eq
  · exact (List.filter_sublist.map _).nodup h.task_ids
  · exact fun t ht => h.task_started t (List.mem_filter.mp ht).1
  · exact h.not_plain
  · intro tag f i hs
    obtain ⟨t, ht, hload⟩ := h.manned hs
    refine ⟨t, List.mem_filter.mpr ⟨ht, ?_⟩, hload⟩
    simp only [bne_iff_ne, ne_eq]
    rintro rfl
    have hcurrent : r.isCurrent t.load = true := by
      rw [isCurrent_iff, hload]
      exact ⟨f, hs⟩
    have hsome := (r.currentTask?_eq_some_iff t.load.id t).mpr ⟨h.find_task ht, hcurrent⟩
    simp [hsome] at htask
  · exact h.current
  · exact h.ready

theorem Manned.effect {notes : List RegistryNote} (h : Manned r (starts notes))
    (t : Effect r now e n r') : Manned r' (starts (notes ++ n.toList)) := by
  have dropped : ∀ {id : Nat}, ∀ t ∈ r.tasks, t.load.id ≠ id →
      t ∈ r.tasks.filter (·.load.id != id) :=
    fun t ht hne => List.mem_filter.mpr ⟨ht, by simpa using hne⟩
  cases t with
  | asked language => simpa using h
  | started language failures retryAt loader hplain hslot hloader =>
      rw [starts_append]
      exact h.start hplain hslot hloader now
  | refused language g g' hslot =>
      rw [Option.toList_some, starts_append_of_none rfl]
      exact h
  | overtook language g failures id hslot =>
      rw [Option.toList_some, starts_append_of_none rfl]
      exact h.resolve hslot (.success g) (List.Sublist.refl r.tasks) fun t ht _ => ht
  | adopted language g hslot =>
      rw [Option.toList_some, starts_append_of_none rfl]
      exact h.adopt g hslot
  | late id result htask => simpa using h.late htask
  | loaded t g failures htask hslot =>
      rw [Option.toList_some, starts_append_of_none rfl]
      exact h.resolve hslot (.success g) List.filter_sublist dropped
  | failed t e failures htask hslot =>
      rw [Option.toList_some, starts_append_of_none rfl]
      exact h.resolve hslot (.failure _ e) List.filter_sublist dropped

theorem manned_after (loaders : List Loader) (retry : RetryPolicy)
    (es : List (Nat × RegistryEvent)) :
    Manned (after { loaders, retry } es) (starts (journal { loaders, retry } es)) :=
  journal_induction (P := fun r notes => Manned r (starts notes)) (fun t h => h.effect t)
    (manned_new loaders retry) es

/-! ### What a current load can count on -/

theorem Manned.ensureLoaded (h : Manned r loads) {tag : String} {failures id : Nat}
    (hslot : r.slots.get? tag = some (.loading failures id)) (now : Nat) :
    r.ensureLoaded now tag = (some ⟨id, tag⟩, r) := by
  simp [Registry.ensureLoaded, h.not_plain hslot, hslot]

end Highlight.Registry
