import Highlight.Proofs.Registry.Lone
import Highlight.Proofs.Registry.Polling
import Highlight.Proofs.Registry.Views
import Mathlib.Data.Set.Monotone

/-!
# One tag in two registries

The slots of all tags stand in one table and all loads draw their numbers from one counter, so what
is done to other tags shows in the numbers of a tag's loads.  It shows nowhere else.  A registry
mirrors what another one has of a tag when slot, tasks and outcomes are the same but for the
numbers, and these stand in the same order.  Whatever is done to another tag keeps the mirror image
as it is, and whatever is done to the tag itself is done to the mirror image too.
-/

namespace Highlight

def Load.renumber (f : Nat → Nat) (l : Load) : Load := { l with id := f l.id }

def LoadTask.renumber (f : Nat → Nat) (t : LoadTask) : LoadTask :=
  { t with load := t.load.renumber f }

def Slot.renumber (f : Nat → Nat) : Slot → Slot
  | .loading failures id => .loading failures (f id)
  | slot => slot

namespace Registry

variable {r r' r₁ : Registry} {tag : String} {own : Set Nat} {f f₁ : Nat → Nat} {now : Nat}
  {e : RegistryEvent} {n : Option RegistryNote}

theorem Reachable.manned (h : r.Reachable) : ∃ loads, r.Manned loads := by
  obtain ⟨loaders, retry, es, rfl⟩ := h
  exact ⟨_, manned_after loaders retry es⟩

theorem Reachable.lone (h : r.Reachable) (tag : String) : r.Lone tag := by
  obtain ⟨loaders, retry, es, rfl⟩ := h
  exact lone_after loaders retry es tag

theorem nextId_le_occur (r : Registry) (now : Nat) (e : RegistryEvent) :
    r.nextId ≤ (r.occur now e).nextId := by
  rcases r.occur_turn now e with t | ⟨_, _, _, t⟩
  · exact t.nextId_le
  · exact t.nextId_le

/-- The second registry has the loads of one tag only, under the numbers that `f` gives to them;
`own` are the numbers that they have in the first one. -/
structure Mirrors (tag : String) (own : Set Nat) (f : Nat → Nat) (r r' : Registry) : Prop where
  loaders_eq : r'.loaders = r.loaders
  retry_eq : r'.retry = r.retry
  slot_eq : r'.slots.get? tag = (r.slots.get? tag).map (Slot.renumber f)
  tasks_eq : r'.tasks = (r.tasksOf tag).map (LoadTask.renumber f)
  outcome_eq : ∀ i ∈ own, r'.outcomes.get? (f i) = r.outcomes.get? i
  mono : StrictMonoOn f own
  own_lt : ∀ i ∈ own, i < r.nextId ∧ f i < r'.nextId
  own_slot : ∀ {failures id}, r.slots.get? tag = some (.loading failures id) → id ∈ own
  own_task : ∀ t ∈ r.tasks, t.load.id ∈ own ↔ t.load.language = tag

theorem mirrors_new (loaders : List Loader) (retry : RetryPolicy) (tag : String) :
    Mirrors tag ∅ id { loaders, retry } { loaders, retry } where
  loaders_eq := rfl
  retry_eq := rfl
  slot_eq := rfl
  tasks_eq := rfl
  outcome_eq := by simp
  mono := by simp [StrictMonoOn]
  own_lt := by simp
  own_slot := by simp [Table.get?]
  own_task := by simp

/-! ### What can be seen of the tag -/

theorem Mirrors.loaderFor?_eq (h : Mirrors tag own f r r') (language : String) :
    r'.loaderFor? language = r.loaderFor? language := by
  simp only [loaderFor?, h.loaders_eq]

theorem Mirrors.status_eq (h : Mirrors tag own f r r') : r'.status tag = r.status tag := by
  unfold status
  rw [h.slot_eq, h.loaderFor?_eq, h.retry_eq]
  cases r.slots.get? tag with
  | none => rfl
  | some slot => cases slot <;> rfl

theorem Mirrors.failures_eq (h : Mirrors tag own f r r') : r'.failures tag = r.failures tag := by
  unfold failures
  rw [h.slot_eq]
  cases r.slots.get? tag with
  | none => rfl
  | some slot => cases slot <;> rfl

theorem Mirrors.grammar?_eq (h : Mirrors tag own f r r') : r'.grammar? tag = r.grammar? tag := by
  unfold grammar?
  rw [h.slot_eq]
  cases r.slots.get? tag with
  | none => rfl
  | some slot => cases slot <;> rfl

theorem Mirrors.isReady_eq (h : Mirrors tag own f r r') : r'.isReady tag = r.isReady tag := by
  rw [Bool.eq_iff_iff, isReady_iff_exists_grammar, isReady_iff_exists_grammar, h.grammar?_eq]

theorem Mirrors.id_eq_iff (h : Mirrors tag own f r r') {i j : Nat} (hi : i ∈ own) (hj : j ∈ own) :
    f i = f j ↔ i = j :=
  h.mono.injOn.eq_iff hi hj

theorem Mirrors.own_of_mem (h : Mirrors tag own f r r') {t : LoadTask} (ht : t ∈ r.tasksOf tag) :
    t.load.id ∈ own := by
  obtain ⟨hmem, hlang⟩ := mem_tasksOf.mp ht
  exact (h.own_task t hmem).mpr hlang

/-- Only the numbers of the tag's own loads matter. -/
theorem Mirrors.congr (h : Mirrors tag own f r r') (heq : ∀ i ∈ own, f₁ i = f i) :
    Mirrors tag own f₁ r r' where
  loaders_eq := h.loaders_eq
  retry_eq := h.retry_eq
  slot_eq := by
    rw [h.slot_eq]
    cases hslot : r.slots.get? tag with
    | none => rfl
    | some slot =>
        cases slot with
        | loading failures id => simp [Slot.renumber, heq id (h.own_slot hslot)]
        | _ => rfl
  tasks_eq := by
    rw [h.tasks_eq]
    apply List.map_congr_left
    intro t ht
    simp [LoadTask.renumber, Load.renumber, heq _ (h.own_of_mem ht)]
  outcome_eq := fun i hi => heq i hi ▸ h.outcome_eq i hi
  mono := h.mono.congr fun i hi => (heq i hi).symm
  own_lt := fun i hi => heq i hi ▸ h.own_lt i hi
  own_slot := h.own_slot
  own_task := h.own_task

/-! ### Events of other tags -/

/-- An event leaves a tag alone: it is about another one. -/
def Spares (r : Registry) (tag : String) : RegistryEvent → Prop
  | .ensure language => language ≠ tag
  | .register language _ => language ≠ tag
  | .finish id _ => ∀ t ∈ r.tasks, t.load.id = id → t.load.language ≠ tag

theorem Mirrors.elsewhere (h : Mirrors tag own f r r') (hloaders : r₁.loaders = r.loaders)
    (hretry : r₁.retry = r.retry) (hnext : r.nextId ≤ r₁.nextId)
    (hslot : r₁.slots.get? tag = r.slots.get? tag) (htasks : r₁.tasksOf tag = r.tasksOf tag)
    (hout : ∀ i ∈ own, r₁.outcomes.get? i = r.outcomes.get? i)
    (hown : ∀ t ∈ r₁.tasks, t.load.id ∈ own ↔ t.load.language = tag) : Mirrors tag own f r₁ r' where
  loaders_eq := h.loaders_eq.trans hloaders.symm
  retry_eq := h.retry_eq.trans hretry.symm
  slot_eq := hslot ▸ h.slot_eq
  tasks_eq := htasks ▸ h.tasks_eq
  outcome_eq := fun i hi => (h.outcome_eq i hi).trans (hout i hi).symm
  mono := h.mono
  own_lt := fun i hi => ⟨Nat.lt_of_lt_of_le (h.own_lt i hi).1 hnext, (h.own_lt i hi).2⟩
  own_slot := fun hs => h.own_slot (hslot ▸ hs)
  own_task := hown

theorem tasksOf_filter_of_spares {id : Nat}
    (h : ∀ t ∈ r.tasks, t.load.id = id → t.load.language ≠ tag) :
    tasksOf { r with tasks := r.tasks.filter (·.load.id != id) } tag = r.tasksOf tag := by
  rw [tasksOf_filter, List.filter_eq_self]
  intro t ht
  obtain ⟨hmem, hlang⟩ := mem_tasksOf.mp ht
  simp only [bne_iff_ne, ne_eq]
  exact fun hid => h t hmem hid hlang

theorem Effect.mirrors (t : Effect r now e n r₁) (hr : r.Reachable) (h : Mirrors tag own f r r')
    (hspares : r.Spares tag e) : Mirrors tag own f r₁ r' := by
  obtain ⟨loads, hmanned⟩ := hr.manned
  -- a load that settles the slot of another tag is none of the tag's own
  have foreign : ∀ {language : String} {failures id : Nat} {o : LoadOutcome}, language ≠ tag →
      r.slots.get? language = some (.loading failures id) →
      ∀ i ∈ own, (r.outcomes.insert id o).get? i = r.outcomes.get? i := by
    intro language failures id o hne hslot i hi
    apply Table.get?_insert_of_ne
    rintro rfl
    obtain ⟨u, hu, hload⟩ := hmanned.manned hslot
    have howned := h.own_task u hu
    rw [hload] at howned
    exact hne (howned.mp hi)
  have slot : ∀ {language : String} {s : Slot}, language ≠ tag →
      (r.slots.insert language s).get? tag = r.slots.get? tag :=
    fun hne => Table.get?_insert_of_ne _ _ (Ne.symm hne)
  have dropped : ∀ {id : Nat}, ∀ u ∈ r.tasks.filter (·.load.id != id),
      u.load.id ∈ own ↔ u.load.language = tag :=
    fun u hu => h.own_task u (List.mem_filter.mp hu).1
  cases t with
  | asked language => exact h
  | started language failures retryAt loader hplain hslot hloader =>
      have hne : language ≠ tag := hspares
      refine h.elsewhere rfl rfl (Nat.le_succ _) (slot hne) ?_ (fun _ _ => rfl) ?_
      · rw [tasksOf_start, if_neg hne]
      · intro u hu
        rcases List.mem_append.mp hu with hold | hnew
        · exact h.own_task u hold
        · obtain rfl := List.mem_singleton.mp hnew
          simp only [hne, iff_false]
          exact fun hown => Nat.lt_irrefl _ (h.own_lt _ hown).1
  | refused language g g' hslot => exact h
  | overtook language g failures id hslot =>
      have hne : language ≠ tag := hspares
      exact h.elsewhere rfl rfl (Nat.le_refl _) (slot hne) rfl (foreign hne hslot) h.own_task
  | adopted language g hslot =>
      have hne : language ≠ tag := hspares
      exact h.elsewhere rfl rfl (Nat.le_refl _) (slot hne) rfl (fun _ _ => rfl) h.own_task
  | late id result htask =>
      exact h.elsewhere rfl rfl (Nat.le_refl _) rfl (tasksOf_filter_of_spares hspares)
        (fun _ _ => rfl) dropped
  | loaded t g failures htask hslot =>
      have hne : t.load.language ≠ tag := hspares t (List.mem_of_find?_eq_some htask) rfl
      exact h.elsewhere rfl rfl (Nat.le_refl _) (slot hne) (tasksOf_filter_of_spares hspares)
        (foreign hne hslot) dropped
  | failed t error failures htask hslot =>
      have hne : t.load.language ≠ tag := hspares t (List.mem_of_find?_eq_some htask) rfl
      exact h.elsewhere rfl rfl (Nat.le_refl _) (slot hne) (tasksOf_filter_of_spares hspares)
        (foreign hne hslot) dropped

/-! ### Events of the tag -/

theorem Mirrors.awaits (h : Mirrors tag own f r r') {failures : Nat} {retryAt : Option Nat}
    (hawaits : r.Awaits tag failures retryAt) : r'.Awaits tag failures retryAt := by
  unfold Awaits
  rw [h.slot_eq, h.retry_eq]
  rcases hawaits with ⟨hslot, hrest⟩ | ⟨hslot, hgive⟩
  · exact Or.inl ⟨by simp [hslot], hrest⟩
  · exact Or.inr ⟨by simp [hslot, Slot.renumber], hgive⟩

/-- The load that is started has a new number on both sides. -/
theorem Mirrors.start (h : Mirrors tag own f r r') (hr : r.Reachable) (hr' : r'.Reachable)
    (hf : f r.nextId = r'.nextId) (now failures : Nat) (retryAt : Option Nat) (loader : Loader) :
    Mirrors tag (insert r.nextId own) f (r.start now tag failures retryAt loader).2
      (r'.start now tag failures retryAt loader).2 := by
  obtain ⟨loads, hmanned⟩ := hr.manned
  have fresh : ∀ {q : Registry}, q.Reachable → q.outcomes.get? q.nextId = none := by
    intro q hq
    cases ho : q.outcomes.get? q.nextId with
    | none => rfl
    | some o => exact absurd (hq.sound.outcome_lt ho) (Nat.lt_irrefl _)
  constructor
  · exact h.loaders_eq
  · exact h.retry_eq
  · simp [Registry.start, Slot.renumber, hf]
  · rw [tasksOf_start, if_pos rfl, List.map_append, ← h.tasks_eq]
    simp [Registry.start, LoadTask.renumber, Load.renumber, hf]
  · intro i hi
    rcases Set.mem_insert_iff.mp hi with rfl | hold
    · rw [hf]
      exact (fresh hr').trans (fresh hr).symm
    · exact h.outcome_eq i hold
  · intro i hi j hj hij
    rcases Set.mem_insert_iff.mp hi with rfl | hi <;> rcases Set.mem_insert_iff.mp hj with rfl | hj
    · exact absurd hij (Nat.lt_irrefl _)
    · exact absurd hij (Nat.lt_asymm (h.own_lt j hj).1)
    · rw [hf]
      exact (h.own_lt i hi).2
    · exact h.mono hi hj hij
  · intro i hi
    rcases Set.mem_insert_iff.mp hi with rfl | hold
    · exact ⟨Nat.lt_succ_self _, hf ▸ Nat.lt_succ_self _⟩
    · exact ⟨Nat.lt_succ_of_lt (h.own_lt i hold).1, Nat.lt_succ_of_lt (h.own_lt i hold).2⟩
  · intro failures' id hs
    obtain ⟨-, rfl⟩ : failures = failures' ∧ r.nextId = id := by simpa [Registry.start] using hs
    exact Set.mem_insert _ _
  · intro t ht
    rcases List.mem_append.mp ht with hold | hnew
    · have hlt := hmanned.id_lt (hmanned.task_started t hold)
      simp [Nat.ne_of_lt hlt, h.own_task t hold]
    · obtain rfl := List.mem_singleton.mp hnew
      simp

/-- The load of the tag is over, or its slot is filled by hand. -/
theorem Mirrors.settle (h : Mirrors tag own f r r') (slot : Slot) {slot' : Slot}
    (hsame : slot' = slot.renumber f) (hidle : ∀ failures id, slot ≠ .loading failures id)
    {outcomes outcomes' : Table Nat LoadOutcome}
    (hout : ∀ i ∈ own, outcomes'.get? (f i) = outcomes.get? i) :
    Mirrors tag own f { r with slots := r.slots.insert tag slot, outcomes }
      { r' with slots := r'.slots.insert tag slot', outcomes := outcomes' } where
  loaders_eq := h.loaders_eq
  retry_eq := h.retry_eq
  slot_eq := by simp [hsame]
  tasks_eq := h.tasks_eq
  outcome_eq := hout
  mono := h.mono
  own_lt := h.own_lt
  own_slot := by
    intro failures id hs
    rw [Table.get?_insert_self] at hs
    exact absurd (Option.some.inj hs) (hidle failures id)
  own_task := h.own_task

theorem Mirrors.outcome_insert (h : Mirrors tag own f r r') {id : Nat} (hid : id ∈ own)
    (o : LoadOutcome) :
    ∀ i ∈ own, (r'.outcomes.insert (f id) o).get? (f i) = (r.outcomes.insert id o).get? i := by
  intro i hi
  simp only [Table.get?_insert, h.id_eq_iff hi hid, h.outcome_eq i hi]

theorem Mirrors.register (h : Mirrors tag own f r r') (g : Grammar) :
    Mirrors tag own f (r.register tag g).2 (r'.register tag g).2 := by
  have filled : ∀ {outcomes outcomes' : Table Nat LoadOutcome},
      (∀ i ∈ own, outcomes'.get? (f i) = outcomes.get? i) →
      Mirrors tag own f { r with slots := r.slots.insert tag (.registered g), outcomes }
        { r' with slots := r'.slots.insert tag (.registered g), outcomes := outcomes' } :=
    fun hout => h.settle (.registered g) rfl (by simp) hout
  unfold Registry.register
  rw [h.slot_eq]
  cases hslot : r.slots.get? tag with
  | none => exact filled h.outcome_eq
  | some slot =>
      cases slot with
      | registered g' => exact h
      | loading failures id => exact filled (h.outcome_insert (h.own_slot hslot) (.ok ()))
      | unregistered failures retryAt => exact filled h.outcome_eq

theorem Mirrors.complete (h : Mirrors tag own f r r') {l : Load} (hlang : l.language = tag)
    (hown : l.id ∈ own) (now : Nat) (result : LoadResult) :
    Mirrors tag own f (r.complete now l result) (r'.complete now (l.renumber f) result) := by
  subst hlang
  unfold Registry.complete
  simp only [Load.renumber, h.slot_eq]
  cases hslot : r.slots.get? l.language with
  | none => exact h
  | some slot =>
      cases slot with
      | registered g => exact h
      | unregistered failures retryAt => exact h
      | loading failures id =>
          have hid : id ∈ own := h.own_slot hslot
          simp only [Option.map_some, Slot.renumber, h.id_eq_iff hid hown]
          by_cases heq : id = l.id
          · simp only [if_pos heq]
            cases result with
            | ok g => exact h.settle (.registered g) rfl (by simp) (h.outcome_insert hid _)
            | error e =>
                refine h.settle (.unregistered _ _) ?_ (by simp) (h.outcome_insert hid _)
                rw [h.retry_eq]
                rfl
          · simp only [if_neg heq]
            exact h

theorem Mirrors.dropTask (h : Mirrors tag own f r r') {id : Nat} (hid : id ∈ own) :
    Mirrors tag own f { r with tasks := r.tasks.filter (·.load.id != id) }
      { r' with tasks := r'.tasks.filter (·.load.id != f id) } where
  loaders_eq := h.loaders_eq
  retry_eq := h.retry_eq
  slot_eq := h.slot_eq
  tasks_eq := by
    rw [tasksOf_filter]
    simp only [h.tasks_eq, List.filter_map]
    congr 1
    apply List.filter_congr
    intro t ht
    simp [LoadTask.renumber, Load.renumber, bne, beq_eq_decide, h.id_eq_iff (h.own_of_mem ht) hid]
  outcome_eq := h.outcome_eq
  mono := h.mono
  own_lt := h.own_lt
  own_slot := h.own_slot
  own_task := fun t ht => h.own_task t (List.mem_filter.mp ht).1

theorem Mirrors.mem (h : Mirrors tag own f r r') {t : LoadTask} (ht : t ∈ r.tasksOf tag) :
    t.renumber f ∈ r'.tasks :=
  h.tasks_eq ▸ List.mem_map_of_mem ht

theorem Mirrors.finish (h : Mirrors tag own f r r') (hr : r.Reachable) (hr' : r'.Reachable)
    {t : LoadTask} (ht : t ∈ r.tasksOf tag) (now : Nat) (result : LoadResult) :
    Mirrors tag own f (r.finish now t.load.id result) (r'.finish now (f t.load.id) result) := by
  obtain ⟨loads, hmanned⟩ := hr.manned
  obtain ⟨loads', hmanned'⟩ := hr'.manned
  obtain ⟨hmem, hlang⟩ := mem_tasksOf.mp ht
  have hown := h.own_of_mem ht
  have hfind := hmanned.find_task hmem
  have hfind' : r'.tasks.find? (·.load.id == f t.load.id) = some (t.renumber f) :=
    hmanned'.find_task (h.mem ht)
  simp only [Registry.finish, hfind, hfind']
  exact (h.dropTask hown).complete hlang hown now result

/-- A request for the tag is answered alike, and what it starts is started on both sides. -/
theorem Mirrors.ensureLoaded (h : Mirrors tag own f r r') (hr : r.Reachable) (hr' : r'.Reachable)
    (hf : f r.nextId = r'.nextId) (now : Nat) :
    ∃ own₁, own ⊆ own₁ ∧ own₁ ⊆ insert r.nextId own ∧
      Mirrors tag own₁ f (r.ensureLoaded now tag).2 (r'.ensureLoaded now tag).2 ∧
      (r'.ensureLoaded now tag).1 = (r.ensureLoaded now tag).1.map (Load.renumber f) := by
  have unchanged : ∀ l? : Option Load, r.ensureLoaded now tag = (l?, r) →
      r'.ensureLoaded now tag = (l?.map (Load.renumber f), r') →
      ∃ own₁, own ⊆ own₁ ∧ own₁ ⊆ insert r.nextId own ∧
        Mirrors tag own₁ f (r.ensureLoaded now tag).2 (r'.ensureLoaded now tag).2 ∧
        (r'.ensureLoaded now tag).1 = (r.ensureLoaded now tag).1.map (Load.renumber f) := by
    intro l? he he'
    rw [he, he']
    exact ⟨own, subset_rfl, Set.subset_insert _ _, h, rfl⟩
  have hslots := h.slot_eq
  cases hplain : Language.isPlain tag with
  | true =>
      apply unchanged none
      · simp [Registry.ensureLoaded, hplain]
      · simp [Registry.ensureLoaded, hplain]
  | false =>
      have hstanding := hr.sound.standing hplain
      generalize r.status tag = status at hstanding
      cases hstanding with
      | waiting failures retryAt loader hawaits hloader =>
          have hloader' := (h.loaderFor?_eq tag).trans hloader
          rw [hawaits.ensureLoaded_eq hplain hloader now,
            (h.awaits hawaits).ensureLoaded_eq hplain hloader' now]
          refine ⟨_, Set.subset_insert _ _, subset_rfl,
            h.start hr hr' hf now failures retryAt loader, ?_⟩
          simp [Load.renumber, hf]
      | unknown hslot hloader =>
          apply unchanged none
          · simp [Registry.ensureLoaded, hplain, hslot, hloader]
          · simp [Registry.ensureLoaded, hplain, hslots, hslot, h.loaderFor?_eq, hloader]
      | loading failures id hslot =>
          apply unchanged (some ⟨id, tag⟩)
          · simp [Registry.ensureLoaded, hplain, hslot]
          · simp [Registry.ensureLoaded, hplain, hslots, hslot, Slot.renumber, Load.renumber]
      | registered g hslot =>
          apply unchanged none
          · simp [Registry.ensureLoaded, hplain, hslot]
          · simp [Registry.ensureLoaded, hplain, hslots, hslot, Slot.renumber]
      | gaveUp failures retryAt hslot hgive =>
          apply unchanged none
          · simp [Registry.ensureLoaded, hplain, hslot, hgive]
          · simp [Registry.ensureLoaded, hplain, hslots, hslot, Slot.renumber, h.retry_eq, hgive]

end Registry

end Highlight
