import Highlight.Registry.Basic

/-!
# Turns of the registry

Whatever happens to a registry is one of four turns: nothing that can be seen, the start of a load,
the end of a load under way, or the adoption of a grammar that nobody was loading.  `Turn` lists
them with all that is known at the time, so that laws of the registry need not look into its
operations.
-/

namespace Highlight

inductive RegistryEvent where
  /-- Somebody asks for the grammar of a tag. -/
  | ensure (language : String)
  /-- A grammar is registered by hand. -/
  | register (language : String) (g : Grammar)
  /-- The task of a load ends with a result; the result of a crash is an error. -/
  | finish (id : Nat) (result : LoadResult)

namespace Registry

def occur (r : Registry) (now : Nat) : RegistryEvent → Registry
  | .ensure language => (r.ensureLoaded now language).2
  | .register language g => (r.register language g).2
  | .finish id result => r.finish now id result

def after (r : Registry) : List (Nat × RegistryEvent) → Registry
  | [] => r
  | e :: es => (r.occur e.1 e.2).after es

/-- The registries that events can make out of a new one. -/
def Reachable (r : Registry) : Prop :=
  ∃ (loaders : List Loader) (retry : RetryPolicy) (es : List (Nat × RegistryEvent)),
    r = after { loaders, retry } es

theorem after_append (r : Registry) (es fs : List (Nat × RegistryEvent)) :
    r.after (es ++ fs) = (r.after es).after fs := by
  induction es generalizing r with
  | nil => rfl
  | cons e es ih => exact ih (r.occur e.1 e.2)

theorem Reachable.after {r : Registry} (h : r.Reachable) (es : List (Nat × RegistryEvent)) :
    (r.after es).Reachable := by
  obtain ⟨loaders, retry, earlier, rfl⟩ := h
  exact ⟨loaders, retry, earlier ++ es, (after_append _ earlier es).symm⟩

theorem Reachable.occur {r : Registry} (h : r.Reachable) (now : Nat) (e : RegistryEvent) :
    (r.occur now e).Reachable := h.after [(now, e)]

/-- The slot of a tag lets a load begin. -/
def MayStart (r : Registry) (language : String) : Prop :=
  r.slots.get? language = none ∨
    ∃ failures retryAt, r.slots.get? language = some (.unregistered failures retryAt) ∧
      r.retry.givesUp failures = false

/-- A load of the tag may begin after so many failed ones, and call its loader from a time on. -/
def Awaits (r : Registry) (language : String) (failures : Nat) (retryAt : Option Nat) : Prop :=
  (r.slots.get? language = none ∧ failures = 0 ∧ retryAt = none) ∨
    (r.slots.get? language = some (.unregistered failures retryAt) ∧
      r.retry.givesUp failures = false)

theorem Awaits.mayStart {r : Registry} {language : String} {failures : Nat} {retryAt : Option Nat}
    (h : r.Awaits language failures retryAt) : r.MayStart language := by
  rcases h with ⟨hn, -, -⟩ | ⟨hs, hg⟩
  · exact Or.inl hn
  · exact Or.inr ⟨failures, retryAt, hs, hg⟩

theorem Awaits.not_loading {r : Registry} {language : String} {failures : Nat}
    {retryAt : Option Nat} (h : r.Awaits language failures retryAt) (f id : Nat) :
    r.slots.get? language ≠ some (.loading f id) := by
  rcases h with ⟨hn, -, -⟩ | ⟨hs, -⟩ <;> simp_all

theorem Awaits.status_eq {r : Registry} {language : String} {failures : Nat} {retryAt : Option Nat}
    {loader : Loader} (h : r.Awaits language failures retryAt)
    (hplain : Language.isPlain language = false) (hloader : r.loaderFor? language = some loader) :
    r.status language = .unregistered failures := by
  rcases h with ⟨hs, rfl, -⟩ | ⟨hs, hgive⟩
  · simp [status, hplain, hs, hloader]
  · simp [status, hplain, hs, hgive]

theorem Awaits.grammar?_eq_none {r : Registry} {language : String} {failures : Nat}
    {retryAt : Option Nat} (h : r.Awaits language failures retryAt) :
    r.grammar? language = none := by
  rcases h with ⟨hn, -, -⟩ | ⟨hs, -⟩
  · rw [grammar?, hn]
  · rw [grammar?, hs]

/-- How the slot of a tag is left by a load that ends. -/
inductive Settles (failures : Nat) : Slot → LoadOutcome → Prop
  | success (g : Grammar) : Settles failures (.registered g) (.ok ())
  | failure (retryAt : Nat) (e : GrammarError) :
      Settles failures (.unregistered (failures + 1) (some retryAt)) (.error e)

/-- One turn of a registry.  The tag is that of a grammar which is adopted without a load; the tasks
under way may become any others. -/
inductive Turn (r : Registry) : Option String → Registry → Prop
  | idle (tasks : List LoadTask) : Turn r none { r with tasks }
  | start (language : String) (failures : Nat) (tasks : List LoadTask)
      (hplain : Language.isPlain language = false) (hslot : r.MayStart language)
      (hloader : (r.loaderFor? language).isSome) :
      Turn r none
        { r with
          slots := r.slots.insert language (.loading failures r.nextId)
          nextId := r.nextId + 1
          tasks }
  | resolve (language : String) (failures id : Nat) (slot : Slot) (outcome : LoadOutcome)
      (tasks : List LoadTask) (hslot : r.slots.get? language = some (.loading failures id))
      (hend : Settles failures slot outcome) :
      Turn r none
        { r with
          slots := r.slots.insert language slot
          outcomes := r.outcomes.insert id outcome
          tasks }
  | adopt (language : String) (g : Grammar)
      (hready : ∀ g', r.slots.get? language ≠ some (.registered g'))
      (hload : ∀ failures id, r.slots.get? language ≠ some (.loading failures id)) :
      Turn r (some language) { r with slots := r.slots.insert language (.registered g) }

/-! ### The operations as turns -/

/-- Asking for a grammar gives the load under way, starts one, or changes nothing. -/
theorem ensureLoaded_cases (r : Registry) (now : Nat) (language : String) :
    (r.ensureLoaded now language).2 = r ∧
        (∀ l, (r.ensureLoaded now language).1 = some l → l.language = language ∧
          r.status language = .loading ∧
          ∃ failures, r.slots.get? language = some (.loading failures l.id)) ∨
      ∃ failures retryAt loader, Language.isPlain language = false ∧
        r.Awaits language failures retryAt ∧ r.loaderFor? language = some loader ∧
        r.ensureLoaded now language =
          (some ⟨r.nextId, language⟩, (r.start now language failures retryAt loader).2) := by
  unfold ensureLoaded
  cases hplain : Language.isPlain language with
  | true => simp
  | false =>
      cases hslot : r.slots.get? language with
      | none =>
          cases hl : r.loaderFor? language with
          | none => simp
          | some loader =>
              exact Or.inr ⟨0, none, loader, rfl, Or.inl ⟨hslot, rfl, rfl⟩, rfl, by simp [start]⟩
      | some slot =>
          cases slot with
          | registered g => simp
          | loading failures id =>
              refine Or.inl ⟨by simp, ?_⟩
              intro l h
              obtain rfl : (⟨id, language⟩ : Load) = l := by simpa using h
              exact ⟨rfl, by simp [status, hplain, hslot], failures, rfl⟩
          | unregistered failures retryAt =>
              cases hgive : r.retry.givesUp failures with
              | true => simp [hgive]
              | false =>
                  cases hl : r.loaderFor? language with
                  | none => simp [hgive]
                  | some loader =>
                      exact Or.inr ⟨failures, retryAt, loader, rfl, Or.inr ⟨hslot, hgive⟩, rfl,
                        by simp [start, hgive]⟩

theorem ensureLoaded_turn (r : Registry) (now : Nat) (language : String) :
    Turn r none (r.ensureLoaded now language).2 := by
  rcases r.ensureLoaded_cases now language with ⟨h, -⟩ | ⟨f, at?, loader, hp, hs, hl, h⟩
  · rw [h]
    exact .idle r.tasks
  · rw [h]
    exact .start language f _ hp hs.mayStart (by simp [hl])

/-- A load that is handed out is the one its tag is loading under. -/
theorem ensureLoaded_some {r : Registry} {now : Nat} {language : String} {l : Load}
    (h : (r.ensureLoaded now language).1 = some l) :
    l.language = language ∧
      ∃ failures, (r.ensureLoaded now language).2.slots.get? language =
        some (.loading failures l.id) := by
  rcases r.ensureLoaded_cases now language with ⟨hr, hl⟩ | ⟨f, at?, loader, -, -, -, he⟩
  · obtain ⟨hlang, -, hslot⟩ := hl l h
    rw [hr]
    exact ⟨hlang, hslot⟩
  · rw [he] at h ⊢
    obtain rfl : (⟨r.nextId, language⟩ : Load) = l := by simpa using h
    exact ⟨rfl, f, Table.get?_insert_self ..⟩

theorem ensureLoaded_of_none {r : Registry} {now : Nat} {language : String}
    (h : (r.ensureLoaded now language).1 = none) : (r.ensureLoaded now language).2 = r := by
  rcases r.ensureLoaded_cases now language with ⟨hr, -⟩ | ⟨f, at?, loader, -, -, -, he⟩
  · exact hr
  · simp [he] at h

theorem ensureLoaded_loading {r : Registry} (now : Nat) (language : String) {tag : String}
    {failures id : Nat} (h : r.slots.get? tag = some (.loading failures id)) :
    (r.ensureLoaded now language).2.slots.get? tag = some (.loading failures id) := by
  rcases r.ensureLoaded_cases now language with ⟨hr, -⟩ | ⟨f, at?, loader, -, hs, -, he⟩
  · rwa [hr]
  · have hne : tag ≠ language := by
      rintro rfl
      exact hs.not_loading failures id h
    rw [he]
    simpa [start, Table.get?_insert, hne] using h

theorem ensureLoaded_grammar? (r : Registry) (now : Nat) (language : String) :
    (r.ensureLoaded now language).2.grammar? = r.grammar? := by
  rcases r.ensureLoaded_cases now language with ⟨hr, -⟩ | ⟨f, at?, loader, -, hs, -, he⟩
  · rw [hr]
  · funext tag
    rw [he]
    by_cases htag : tag = language
    · subst tag
      rw [hs.grammar?_eq_none]
      simp [grammar?, start]
    · simp [grammar?, start, Table.get?_insert, htag]

theorem complete_turn (r : Registry) (tasks : List LoadTask) (now : Nat) (l : Load)
    (result : LoadResult) : Turn r none ({ r with tasks }.complete now l result) := by
  unfold complete
  cases hslot : r.slots.get? l.language with
  | none => exact .idle tasks
  | some slot =>
      cases slot with
      | registered g => exact .idle tasks
      | unregistered failures retryAt => exact .idle tasks
      | loading failures id =>
          by_cases hid : id = l.id
          · cases result with
            | ok g =>
                simp only [hid, if_pos]
                exact .resolve l.language failures l.id _ _ tasks (hid ▸ hslot) (.success g)
            | error e =>
                simp only [hid, if_pos]
                exact .resolve l.language failures l.id _ _ tasks (hid ▸ hslot) (.failure _ e)
          · simp only [if_neg hid]
            exact .idle tasks

theorem finish_turn (r : Registry) (now id : Nat) (result : LoadResult) :
    Turn r none (r.finish now id result) := by
  unfold finish
  cases r.tasks.find? (·.load.id == id) with
  | none => exact .idle r.tasks
  | some t => exact r.complete_turn _ now t.load result

/-- Registering by hand ends the load of the tag, or adopts the grammar, or changes nothing. -/
theorem register_turn (r : Registry) (language : String) (g : Grammar) :
    Turn r none (r.register language g).2 ∨ Turn r (some language) (r.register language g).2 := by
  unfold register
  cases hslot : r.slots.get? language with
  | none => exact Or.inr (.adopt language g (by simp [hslot]) (by simp [hslot]))
  | some slot =>
      cases slot with
      | registered g' => exact Or.inl (.idle r.tasks)
      | loading failures id =>
          exact Or.inl (.resolve language failures id _ _ r.tasks hslot (.success g))
      | unregistered failures retryAt =>
          exact Or.inr (.adopt language g (by simp [hslot]) (by simp [hslot]))

/-- Every event is a turn, and only a registration by hand adopts. -/
theorem occur_turn (r : Registry) (now : Nat) (e : RegistryEvent) :
    Turn r none (r.occur now e) ∨
      ∃ language g, e = .register language g ∧ Turn r (some language) (r.occur now e) := by
  cases e with
  | ensure language => exact Or.inl (r.ensureLoaded_turn now language)
  | finish id result => exact Or.inl (r.finish_turn now id result)
  | register language g =>
      rcases r.register_turn language g with h | h
      · exact Or.inl h
      · exact Or.inr ⟨language, g, rfl, h⟩

end Registry

end Highlight
