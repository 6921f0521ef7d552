import Highlight.Proofs.Registry.Flights

/-!
# One task for each tag

A tag has no more than one task at a time.  The next load of a tag begins only after the last one
has failed, and then its task is over; a load that is overtaken leaves its task behind, but no other
load of the tag begins after that.
-/

namespace Highlight.Registry

variable {r r' : Registry} {now : Nat} {e : RegistryEvent} {n : Option RegistryNote} {tag : String}

/-- The tasks of a tag's loads. -/
def tasksOf (r : Registry) (tag : String) : List LoadTask :=
  r.tasks.filter (·.load.language == tag)

theorem mem_tasksOf {t : LoadTask} : t ∈ r.tasksOf tag ↔ t ∈ r.tasks ∧ t.load.language = tag := by
  simp [tasksOf]

theorem tasksOf_start (language : String) (failures : Nat) (retryAt : Option Nat)
    (loader : Loader) :
    (r.start now language failures retryAt loader).2.tasksOf tag =
      if language = tag then
        r.tasksOf tag ++ [⟨⟨r.nextId, language⟩, loader, max now (retryAt.getD now)⟩]
      else r.tasksOf tag := by
  by_cases h : language = tag <;> simp [tasksOf, start, h]

theorem tasksOf_filter (p : LoadTask → Bool) :
    tasksOf { r with tasks := r.tasks.filter p } tag = (r.tasksOf tag).filter p := by
  simp only [tasksOf, List.filter_filter, Bool.and_comm]

/-- The tag has one task at most, that of its current load or of one that was overtaken. -/
def Lone (r : Registry) (tag : String) : Prop :=
  r.tasksOf tag = [] ∨ ∃ t, r.tasksOf tag = [t] ∧ (r.isCurrent t.load = true ∨ r.isReady tag = true)

theorem Lone.eq_nil (h : r.Lone tag) (hready : r.isReady tag = false)
    (hload : ∀ failures id, r.slots.get? tag ≠ some (.loading failures id)) :
    r.tasksOf tag = [] := by
  rcases h with hnil | ⟨t, ht, hcurrent | hr⟩
  · exact hnil
  · obtain ⟨-, hlang⟩ := mem_tasksOf.mp (ht ▸ List.mem_singleton_self t)
    obtain ⟨f, hslot⟩ := (r.isCurrent_iff t.load).mp hcurrent
    exact absurd (hlang ▸ hslot) (hload f t.load.id)
  · exact absurd (hready.symm.trans hr) Bool.false_ne_true

theorem Lone.eq_of_mem (h : r.Lone tag) {t u : LoadTask} (ht : t ∈ r.tasksOf tag)
    (hu : u ∈ r.tasksOf tag) : t = u := by
  rcases h with hnil | ⟨v, hv, -⟩
  · simp [hnil] at ht
  · rw [hv, List.mem_singleton] at ht hu
    rw [ht, hu]

/-- Nothing was done to the tag, except that its task may be over. -/
theorem Lone.of_sublist (h : r.Lone tag) (hsub : (r'.tasksOf tag).Sublist (r.tasksOf tag))
    (hslot : r'.slots.get? tag = r.slots.get? tag) : r'.Lone tag := by
  rcases h with hnil | ⟨t, ht, hcurrent⟩
  · rw [hnil] at hsub
    exact Or.inl (List.sublist_nil.mp hsub)
  · have hlang : t.load.language = tag := (mem_tasksOf.mp (ht ▸ List.mem_singleton_self t)).2
    rw [ht] at hsub
    rcases List.sublist_singleton.mp hsub with hnil | hone
    · exact Or.inl hnil
    · refine Or.inr ⟨t, hone, ?_⟩
      simpa only [isCurrent, isReady, hlang, hslot] using hcurrent

theorem Lone.of_ready (h : r.Lone tag) (hsub : (r'.tasksOf tag).Sublist (r.tasksOf tag))
    (hready : r'.isReady tag = true) : r'.Lone tag := by
  rcases h with hnil | ⟨t, ht, -⟩
  · rw [hnil] at hsub
    exact Or.inl (List.sublist_nil.mp hsub)
  · rw [ht] at hsub
    rcases List.sublist_singleton.mp hsub with hnil | hone
    · exact Or.inl hnil
    · exact Or.inr ⟨t, hone, Or.inr hready⟩

theorem Effect.lone (t : Effect r now e n r') (h : r.Lone tag) : r'.Lone tag := by
  have arrived : ∀ {language : String} {g : Grammar} {tasks : List LoadTask}
      {outcomes : Table Nat LoadOutcome}, (tasksOf { r with tasks } tag).Sublist (r.tasksOf tag) →
      Lone { r with slots := r.slots.insert language (.registered g), outcomes, tasks } tag := by
    intro language g tasks outcomes hsub
    by_cases htag : tag = language
    · exact h.of_ready hsub (by simp [isReady, htag])
    · exact h.of_sublist hsub (Table.get?_insert_of_ne _ _ htag)
  have dropped : ∀ p : LoadTask → Bool,
      (tasksOf { r with tasks := r.tasks.filter p } tag).Sublist (r.tasksOf tag) := by
    intro p
    rw [tasksOf_filter]
    exact List.filter_sublist
  cases t with
  | asked language => exact h
  | started language failures retryAt loader hplain hslot hloader =>
      by_cases htag : language = tag
      · subst htag
        have hready : r.isReady language = false := by
          rw [← Bool.not_eq_true, isReady_iff]
          rintro ⟨g, hg⟩
          have hnone := hslot.grammar?_eq_none
          simp [grammar?, hg] at hnone
        have hnil := h.eq_nil hready hslot.not_loading
        refine Or.inr ⟨_, by rw [tasksOf_start, if_pos rfl, hnil, List.nil_append], Or.inl ?_⟩
        simp [isCurrent, start]
      · apply h.of_sublist
        · rw [tasksOf_start, if_neg htag]
        · exact Table.get?_insert_of_ne _ _ (Ne.symm htag)
  | refused language g g' hslot => exact h
  | overtook language g failures id hslot => exact arrived (List.Sublist.refl _)
  | adopted language g hslot => exact arrived (List.Sublist.refl _)
  | late id result htask => exact h.of_sublist (dropped _) rfl
  | loaded t g failures htask hslot => exact arrived (dropped _)
  | failed t error failures htask hslot =>
      by_cases htag : tag = t.load.language
      · -- the task that failed was the only one of the tag
        have hmem : t ∈ r.tasksOf tag :=
          mem_tasksOf.mpr ⟨List.mem_of_find?_eq_some htask, htag.symm⟩
        left
        refine (tasksOf_filter (r := r) _).trans ?_
        rw [List.filter_eq_nil_iff]
        intro u hu
        simp [h.eq_of_mem hu hmem]
      · exact h.of_sublist (dropped _) (Table.get?_insert_of_ne _ _ htag)

theorem lone_after (loaders : List Loader) (retry : RetryPolicy) (es : List (Nat × RegistryEvent))
    (tag : String) : (after { loaders, retry } es).Lone tag :=
  journal_induction (P := fun r _ => r.Lone tag) (fun t h => t.lone h) (Or.inl rfl) es

end Highlight.Registry
