import Highlight.Proofs.Registry.Flights

/-!
# What the registry says of a tag

Whether a tag is ready, which grammar it has, its status and the answer to a request for its grammar
are each read off the slot, the policy and the loaders anew.  `Standing` lists the five ways in
which these can stand in a registry that has come about, one for each status, and every answer
follows from the way.
-/

namespace Highlight.Registry

variable {r : Registry} {tag : String} {status : GrammarStatus}

theorem isPlain_iff (tag : String) : Language.isPlain tag = true ↔ tag = "" ∨ tag = "none" := by
  simp [Language.isPlain, Language.plainTag]

/-- How slot, policy and loaders stand for a tag of that status. -/
inductive Standing (r : Registry) (tag : String) : GrammarStatus → Prop
  | unknown (hslot : r.slots.get? tag = none) (hloader : r.loaderFor? tag = none) :
      Standing r tag .unknown
  | waiting (failures : Nat) (retryAt : Option Nat) (loader : Loader)
      (hawaits : r.Awaits tag failures retryAt) (hloader : r.loaderFor? tag = some loader) :
      Standing r tag (.unregistered failures)
  | loading (failures id : Nat) (hslot : r.slots.get? tag = some (.loading failures id)) :
      Standing r tag .loading
  | registered (g : Grammar) (hslot : r.slots.get? tag = some (.registered g)) :
      Standing r tag .registered
  | gaveUp (failures : Nat) (retryAt : Option Nat)
      (hslot : r.slots.get? tag = some (.unregistered failures retryAt))
      (hgive : r.retry.givesUp failures = true) : Standing r tag (.gaveUp failures)

/-- Only a tag with a loader can be unregistered after a failure, so the five ways are all. -/
theorem Sound.standing (h : Sound r) (hplain : Language.isPlain tag = false) :
    Standing r tag (r.status tag) := by
  unfold Registry.status
  simp only [hplain, Bool.false_eq_true, if_false]
  cases hslot : r.slots.get? tag with
  | none =>
      cases hl : r.loaderFor? tag with
      | none => exact .unknown hslot hl
      | some loader => exact .waiting 0 none loader (Or.inl ⟨hslot, rfl, rfl⟩) hl
  | some slot =>
      cases slot with
      | registered g => exact .registered g hslot
      | loading failures id => exact .loading failures id hslot
      | unregistered failures retryAt =>
          cases hgive : r.retry.givesUp failures with
          | true => simpa [hgive] using Standing.gaveUp failures retryAt hslot hgive
          | false =>
              obtain ⟨loader, hl⟩ := Option.isSome_iff_exists.mp (h.provided hslot)
              have hwaiting := Standing.waiting failures retryAt loader (Or.inr ⟨hslot, hgive⟩) hl
              simpa [hgive] using hwaiting

/-! ### The answers -/

theorem Standing.grammar?_iff (h : Standing r tag status) :
    (∃ g, r.grammar? tag = some g) ↔ status = .registered := by
  cases h with
  | unknown hslot hloader => simp [grammar?, hslot]
  | waiting failures retryAt loader hawaits hloader => simp [hawaits.grammar?_eq_none]
  | loading failures id hslot => simp [grammar?, hslot]
  | registered g hslot => simp [grammar?, hslot]
  | gaveUp failures retryAt hslot hgive => simp [grammar?, hslot]

theorem isReady_iff_exists_grammar (r : Registry) (tag : String) :
    r.isReady tag = true ↔ ∃ g, r.grammar? tag = some g := by
  simp only [isReady_iff, grammar?_eq_some_iff]

theorem Awaits.ensureLoaded_eq {failures : Nat} {retryAt : Option Nat} {loader : Loader}
    (h : r.Awaits tag failures retryAt) (hplain : Language.isPlain tag = false)
    (hloader : r.loaderFor? tag = some loader) (now : Nat) :
    r.ensureLoaded now tag =
      (some ⟨r.nextId, tag⟩, (r.start now tag failures retryAt loader).2) := by
  rcases h with ⟨hslot, rfl, rfl⟩ | ⟨hslot, hgive⟩
  · simp [ensureLoaded, start, hplain, hslot, hloader]
  · simp [ensureLoaded, start, hplain, hslot, hgive, hloader]

/-- What is answered to a request, and what becomes of the registry. -/
theorem Standing.ensureLoaded_eq (h : Standing r tag status) (hplain : Language.isPlain tag = false)
    (now : Nat) :
    (∃ failures retryAt loader, status = .unregistered failures ∧ r.loaderFor? tag = some loader ∧
        r.ensureLoaded now tag =
          (some ⟨r.nextId, tag⟩, (r.start now tag failures retryAt loader).2)) ∨
      (∃ failures id, status = .loading ∧ r.slots.get? tag = some (.loading failures id) ∧
        r.ensureLoaded now tag = (some ⟨id, tag⟩, r)) ∨
      (status ≠ .loading ∧ (∀ failures, status ≠ .unregistered failures) ∧
        r.ensureLoaded now tag = (none, r)) := by
  cases h with
  | unknown hslot hloader => simp [ensureLoaded, hplain, hslot, hloader]
  | waiting failures retryAt loader hawaits hloader =>
      exact Or.inl
        ⟨failures, retryAt, loader, rfl, hloader, hawaits.ensureLoaded_eq hplain hloader now⟩
  | loading failures id hslot =>
      exact Or.inr (Or.inl ⟨failures, id, rfl, hslot, by simp [ensureLoaded, hplain, hslot]⟩)
  | registered g hslot => simp [ensureLoaded, hplain, hslot]
  | gaveUp failures retryAt hslot hgive => simp [ensureLoaded, hplain, hslot, hgive]

theorem loaderFor?_eq_some_iff {loader : Loader} :
    r.loaderFor? tag = some loader ↔
      ∃ front back, r.loaders = front ++ loader :: back ∧ loader.provides tag = true ∧
        ∀ other ∈ front, other.provides tag = false := by
  simp only [loaderFor?, List.find?_eq_some_iff_append]
  constructor
  · rintro ⟨hp, front, back, heq, hfront⟩
    exact ⟨front, back, heq, hp, by simpa using hfront⟩
  · rintro ⟨front, back, heq, hp, hfront⟩
    exact ⟨hp, front, back, heq, by simpa using hfront⟩

/-! ### Tags that were never registered -/

theorem isReady_register (r : Registry) (tag : String) (g : Grammar) :
    (r.register tag g).2.isReady tag = true := by
  unfold register
  cases hslot : r.slots.get? tag with
  | none => simp [isReady]
  | some slot => cases slot <;> simp [isReady, hslot]

theorem isReady_after_register {es : List (Nat × RegistryEvent)} {time : Nat} {g : Grammar}
    (h : (time, .register tag g) ∈ es) (r : Registry) : (r.after es).isReady tag = true := by
  obtain ⟨front, back, rfl⟩ := List.append_of_mem h
  rw [after_append]
  exact isReady_after (isReady_register _ tag g) back

theorem hopeless_after {es : List (Nat × RegistryEvent)} (hplain : Language.isPlain tag = false)
    (h : r.Hopeless tag) (hes : ∀ time g, (time, .register tag g) ∉ es) :
    (r.after es).Hopeless tag := by
  induction es generalizing r with
  | nil => exact h
  | cons e es ih =>
      obtain ⟨time, e⟩ := e
      apply ih
      · rcases r.occur_turn time e with t | ⟨language, g, rfl, t⟩
        · exact t.hopeless hplain h (by simp)
        · apply t.hopeless hplain h
          rintro ⟨⟩
          exact hes time g List.mem_cons_self
      · exact fun time' g hmem => hes time' g (List.mem_cons_of_mem _ hmem)

theorem loaders_after (r : Registry) (es : List (Nat × RegistryEvent)) :
    (r.after es).loaders = r.loaders := by
  induction es generalizing r with
  | nil => rfl
  | cons e es ih =>
      refine (ih _).trans ?_
      rcases r.occur_turn e.1 e.2 with t | ⟨_, _, _, t⟩
      · exact t.loaders_eq
      · exact t.loaders_eq

/-- A tag is unknown as long as nothing provides it and nobody has registered a grammar for it. -/
theorem status_eq_unknown_iff (loaders : List Loader) (retry : RetryPolicy)
    (es : List (Nat × RegistryEvent)) (hplain : Language.isPlain tag = false) :
    (after { loaders, retry } es).status tag = .unknown ↔
      (∀ loader ∈ loaders, loader.provides tag = false) ∧
        ∀ time g, (time, .register tag g) ∉ es := by
  have hsound : Sound (after { loaders, retry } es) := (sound_new loaders retry).after es
  have hloaders : (after { loaders, retry } es).loaders = loaders := loaders_after _ es
  have hnone : ∀ r : Registry, r.loaders = loaders →
      (r.loaderFor? tag = none ↔ ∀ loader ∈ loaders, loader.provides tag = false) := by
    rintro r rfl
    simp [loaderFor?]
  have hstanding := hsound.standing hplain
  constructor
  · intro hunknown
    rw [hunknown] at hstanding
    cases hstanding with
    | unknown hslot hl =>
        refine ⟨(hnone _ hloaders).mp hl, fun time g hmem => ?_⟩
        have hready := isReady_after_register hmem { loaders, retry }
        simp [isReady, hslot] at hready
  · rintro ⟨hprovides, hes⟩
    have hl := (hnone _ hloaders).mpr hprovides
    have hnew : Hopeless { loaders, retry } tag := by
      rw [hopeless_iff _ hplain]
      exact Or.inl ⟨rfl, (hnone { loaders, retry } rfl).mpr hprovides⟩
    rcases hopeless_after hplain hnew hes with hunknown | ⟨failures, hgave⟩
    · exact hunknown
    · -- a tag is given up only after its loads have failed
      rw [hgave] at hstanding
      cases hstanding with
      | gaveUp failures retryAt hslot hgive =>
          have hprovided := hsound.provided hslot
          simp [hl] at hprovided

/-- Whatever has happened to a registry, its answers about a tag agree: the tag is ready, or has a
grammar, if and only if its status says so; a load is handed out if and only if the tag is loading
or waits to be loaded, it is loading then, and a new load is started if and only if it waited, with
the first loader that provides the tag; otherwise nothing changes.  A tag is unknown if and only if
nothing provides it and no grammar was ever registered for it.  The tags of plain text are unknown
and not loaded whatever has been registered for them. -/
theorem views_agree (loaders : List Loader) (retry : RetryPolicy)
    (es : List (Nat × RegistryEvent)) :
    let new : Registry := { loaders, retry }
    let r := new.after es
    let loads := starts (new.journal es)
    (∀ tag, tag ≠ "" → tag ≠ "none" →
      (r.isReady tag = true ↔ ∃ g, r.grammar? tag = some g) ∧
      ((∃ g, r.grammar? tag = some g) ↔ r.status tag = .registered) ∧
      (r.status tag = .unknown ↔
        (∀ loader ∈ loaders, loader.provides tag = false) ∧
          ∀ time g, (time, .register tag g) ∉ es) ∧
      ∀ now,
        ((∃ l, (r.ensureLoaded now tag).1 = some l) ↔
          r.status tag = .loading ∨ ∃ failures, r.status tag = .unregistered failures) ∧
        (∀ l, (r.ensureLoaded now tag).1 = some l →
          l.language = tag ∧ (r.ensureLoaded now tag).2.status tag = .loading) ∧
        ((r.ensureLoaded now tag).1 = none → (r.ensureLoaded now tag).2 = r) ∧
        ((∃ l, (r.ensureLoaded now tag).1 = some l ∧ l ∉ loads) ↔
          ∃ failures, r.status tag = .unregistered failures) ∧
        ((∀ failures, r.status tag ≠ .unregistered failures) → (r.ensureLoaded now tag).2 = r) ∧
        ∀ l, (r.ensureLoaded now tag).1 = some l → l ∉ loads →
          (∀ m ∈ loads, m.id < l.id) ∧
          ∃ front loader back callAt, loaders = front ++ loader :: back ∧
            loader.provides tag = true ∧ (∀ other ∈ front, other.provides tag = false) ∧
            (r.ensureLoaded now tag).2.tasks = r.tasks ++ [⟨l, loader, callAt⟩]) ∧
    ∀ tag, tag = "" ∨ tag = "none" →
      r.status tag = .unknown ∧ ∀ now, r.ensureLoaded now tag = (none, r) := by
  intro new r loads
  have h : Manned r loads := manned_after loaders retry es
  constructor
  · intro tag hempty hnone
    have hplain : Language.isPlain tag = false := by
      rw [← Bool.not_eq_true, isPlain_iff]
      exact not_or.mpr ⟨hempty, hnone⟩
    have hstanding := h.sound.standing hplain
    refine ⟨r.isReady_iff_exists_grammar tag, hstanding.grammar?_iff,
      status_eq_unknown_iff loaders retry es hplain, fun now => ?_⟩
    rcases hstanding.ensureLoaded_eq hplain now with
      ⟨failures, retryAt, loader, hstatus, hloader, heq⟩ |
        ⟨failures, id, hstatus, hslot, heq⟩ | ⟨hloading, hwaiting, heq⟩
    · have hfresh : (⟨r.nextId, tag⟩ : Load) ∉ loads :=
        fun hmem => Nat.lt_irrefl _ (h.id_lt hmem)
      have hafter : (r.start now tag failures retryAt loader).2.status tag = .loading :=
        status_of_loading hplain (Table.get?_insert_self ..)
      obtain ⟨front, back, hl, hp, hfront⟩ := loaderFor?_eq_some_iff.mp hloader
      rw [loaders_after] at hl
      simp only [heq, hstatus]
      refine ⟨by simp, by simp [hafter], by simp, by simp [hfresh], by simp, ?_⟩
      rintro l hl' -
      obtain rfl := Option.some.inj hl'
      exact ⟨fun m hm => h.id_lt hm, front, loader, back, _, hl, hp, hfront, rfl⟩
    · have hmem : (⟨id, tag⟩ : Load) ∈ loads := h.loading_started hslot
      simp [heq, hstatus, hmem]
    · simp [heq, hloading, hwaiting]
  · intro tag htag
    have hplain := (isPlain_iff tag).mpr htag
    exact ⟨status_of_isPlain hplain, fun now => by simp [ensureLoaded, hplain]⟩

end Highlight.Registry
