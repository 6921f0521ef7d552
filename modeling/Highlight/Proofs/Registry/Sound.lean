import Highlight.Proofs.Registry.Turns

/-!
# Laws of the registry

A registered grammar stays, a load that is over stays over, and the loads under way are over at no
time: their numbers are new, each belongs to one tag, and they have no outcome yet.  `Sound` holds
these facts together; every registry that can be reached is sound.
-/

namespace Highlight.Registry

variable {r r' : Registry} {a : Option String}

theorem grammar?_eq_some_iff (r : Registry) (language : String) (g : Grammar) :
    r.grammar? language = some g ↔ r.slots.get? language = some (.registered g) := by
  unfold grammar?
  cases r.slots.get? language with
  | none => simp
  | some slot => cases slot <;> simp

theorem status_of_isPlain {tag : String} (h : Language.isPlain tag = true) :
    r.status tag = .unknown :=
  if_pos h

theorem status_of_loading {tag : String} (hplain : Language.isPlain tag = false) {failures id : Nat}
    (h : r.slots.get? tag = some (.loading failures id)) : r.status tag = .loading := by
  simp only [status, hplain, h, Bool.false_eq_true, if_false]

/-- A registered grammar is never replaced. -/
theorem Turn.grammar?_eq (t : Turn r a r') {language : String} {g : Grammar}
    (h : r.grammar? language = some g) : r'.grammar? language = some g := by
  rw [grammar?_eq_some_iff] at h ⊢
  cases t with
  | idle tasks => exact h
  | start tag failures tasks hplain hslot hloader =>
      have hne : language ≠ tag := by
        rintro rfl
        rcases hslot with hn | ⟨f, w, hs, -⟩ <;> simp_all
      simpa [Table.get?_insert, hne] using h
  | resolve tag failures id slot outcome tasks hslot hend =>
      have hne : language ≠ tag := by
        rintro rfl
        simp [h] at hslot
      simpa [Table.get?_insert, hne] using h
  | adopt tag g' hready hload =>
      have hne : language ≠ tag := by
        rintro rfl
        exact hready g h
      simpa [Table.get?_insert, hne] using h

theorem Turn.isFinished (t : Turn r a r') {l : Load} (h : r.isFinished l = true) :
    r'.isFinished l = true := by
  unfold Registry.isFinished outcome? at h ⊢
  cases t with
  | idle tasks => exact h
  | start tag failures tasks hplain hslot hloader => exact h
  | resolve tag failures id slot outcome tasks hslot hend =>
      rw [Table.get?_insert]
      split
      · rfl
      · exact h
  | adopt tag g hready hload => exact h

theorem Turn.nextId_le (t : Turn r a r') : r.nextId ≤ r'.nextId := by
  cases t with
  | idle tasks => exact Nat.le_refl _
  | start tag failures tasks hplain hslot hloader => exact Nat.le_succ _
  | resolve tag failures id slot outcome tasks hslot hend => exact Nat.le_refl _
  | adopt tag g hready hload => exact Nat.le_refl _

theorem Turn.loaders_eq (t : Turn r a r') : r'.loaders = r.loaders := by
  cases t <;> rfl

theorem Turn.retry_eq (t : Turn r a r') : r'.retry = r.retry := by
  cases t <;> rfl

theorem Turn.loaderFor?_eq (t : Turn r a r') (language : String) :
    r'.loaderFor? language = r.loaderFor? language := by
  simp only [loaderFor?, t.loaders_eq]

/-- The loads under way are in order. -/
structure Sound (r : Registry) : Prop where
  nextId_pos : 1 ≤ r.nextId
  loading_pos : ∀ {tag f id}, r.slots.get? tag = some (.loading f id) → 1 ≤ id
  loading_lt : ∀ {tag f id}, r.slots.get? tag = some (.loading f id) → id < r.nextId
  loading_open : ∀ {tag f id}, r.slots.get? tag = some (.loading f id) →
    r.outcomes.get? id = none
  loading_unique : ∀ {tag tag' f f' id}, r.slots.get? tag = some (.loading f id) →
    r.slots.get? tag' = some (.loading f' id) → tag = tag'
  outcome_lt : ∀ {id o}, r.outcomes.get? id = some o → id < r.nextId
  /-- What failed once has a loader. -/
  provided : ∀ {tag f w}, r.slots.get? tag = some (.unregistered f w) →
    (r.loaderFor? tag).isSome
  loading_provided : ∀ {tag f id}, r.slots.get? tag = some (.loading f id) →
    (r.loaderFor? tag).isSome

/-- A tag that is loading after the start of a load has that load, or was loading before. -/
theorem loading_of_start {slots : Table String Slot} {language tag : String} {failures id f i : Nat}
    (h : (slots.insert language (.loading failures id)).get? tag = some (.loading f i)) :
    (tag = language ∧ i = id) ∨ slots.get? tag = some (.loading f i) := by
  rw [Table.get?_insert] at h
  split at h
  · obtain ⟨-, rfl⟩ : failures = f ∧ id = i := by simpa using h
    exact Or.inl ⟨‹_›, rfl⟩
  · exact Or.inr h

/-- A tag that is loading after another kind of change was loading before. -/
theorem loading_of_insert {slots : Table String Slot} {language tag : String} {slot : Slot}
    {f i : Nat} (hslot : ∀ f' i', slot ≠ .loading f' i')
    (h : (slots.insert language slot).get? tag = some (.loading f i)) :
    tag ≠ language ∧ slots.get? tag = some (.loading f i) := by
  rw [Table.get?_insert] at h
  split at h
  · exact absurd (Option.some.inj h) (hslot f i)
  · exact ⟨‹_›, h⟩

theorem Settles.ne_loading {failures : Nat} {slot : Slot} {outcome : LoadOutcome}
    (h : Settles failures slot outcome) (f i : Nat) : slot ≠ .loading f i := by
  cases h <;> simp

theorem sound_new (loaders : List Loader) (retry : RetryPolicy) :
    Sound { loaders, retry } where
  nextId_pos := Nat.le_refl 1
  loading_pos := by simp [Table.get?]
  loading_lt := by simp [Table.get?]
  loading_open := by simp [Table.get?]
  loading_unique := by simp [Table.get?]
  outcome_lt := by simp [Table.get?]
  provided := by simp [Table.get?]
  loading_provided := by simp [Table.get?]

theorem Sound.start (h : Sound r) {language : String} (failures : Nat) (tasks : List LoadTask)
    (hloader : (r.loaderFor? language).isSome) :
    Sound
      { r with
        slots := r.slots.insert language (.loading failures r.nextId)
        nextId := r.nextId + 1
        tasks } := by
  constructor
  · exact Nat.le_succ_of_le h.nextId_pos
  · intro tag f id hs
    rcases loading_of_start hs with ⟨-, rfl⟩ | hold
    · exact h.nextId_pos
    · exact h.loading_pos hold
  · intro tag f id hs
    rcases loading_of_start hs with ⟨-, rfl⟩ | hold
    · exact Nat.lt_succ_self _
    · exact Nat.lt_succ_of_lt (h.loading_lt hold)
  · intro tag f id hs
    rcases loading_of_start hs with ⟨-, rfl⟩ | hold
    · -- the number is new, so nothing can have ended under it
      cases ho : r.outcomes.get? r.nextId with
      | none => rfl
      | some o => exact absurd (h.outcome_lt ho) (Nat.lt_irrefl _)
    · exact h.loading_open hold
  · intro tag tag' f f' id hs hs'
    rcases loading_of_start hs with ⟨rfl, rfl⟩ | hold <;>
      rcases loading_of_start hs' with ⟨rfl, hid⟩ | hold'
    · rfl
    · exact absurd (h.loading_lt hold') (Nat.lt_irrefl _)
    · exact absurd (h.loading_lt hold) (by omega)
    · exact h.loading_unique hold hold'
  · exact fun ho => Nat.lt_succ_of_lt (h.outcome_lt ho)
  · intro tag f w hs
    rw [Table.get?_insert] at hs
    split at hs
    · simp at hs
    · exact h.provided hs
  · intro tag f id hs
    rcases loading_of_start hs with ⟨rfl, -⟩ | hold
    · exact hloader
    · exact h.loading_provided hold

theorem Sound.resolve (h : Sound r) {language : String} {failures id : Nat} {slot : Slot}
    {outcome : LoadOutcome} (tasks : List LoadTask)
    (hslot : r.slots.get? language = some (.loading failures id))
    (hend : Settles failures slot outcome) :
    Sound
      { r with
        slots := r.slots.insert language slot
        outcomes := r.outcomes.insert id outcome
        tasks } := by
  -- the slot of the tag is loading no more, and the number belonged to no other tag
  have old : ∀ {tag f i}, (r.slots.insert language slot).get? tag = some (.loading f i) →
      tag ≠ language ∧ r.slots.get? tag = some (.loading f i) :=
    fun hs => loading_of_insert hend.ne_loading hs
  constructor
  · exact h.nextId_pos
  · exact fun hs => h.loading_pos (old hs).2
  · exact fun hs => h.loading_lt (old hs).2
  · intro tag f i hs
    obtain ⟨hne, hold⟩ := old hs
    have hi : i ≠ id := by
      rintro rfl
      exact hne (h.loading_unique hold hslot)
    simpa [Table.get?_insert, hi] using h.loading_open hold
  · exact fun hs hs' => h.loading_unique (old hs).2 (old hs').2
  · intro i o ho
    rw [Table.get?_insert] at ho
    split at ho
    · subst i
      exact h.loading_lt hslot
    · exact h.outcome_lt ho
  · intro tag f w hs
    rw [Table.get?_insert] at hs
    split at hs
    · subst tag
      exact h.loading_provided hslot
    · exact h.provided hs
  · exact fun hs => h.loading_provided (old hs).2

theorem Sound.adopt (h : Sound r) (language : String) (g : Grammar) :
    Sound { r with slots := r.slots.insert language (.registered g) } := by
  have old : ∀ {tag s}, (r.slots.insert language (.registered g)).get? tag = some s →
      (∀ g', s ≠ .registered g') → r.slots.get? tag = some s := by
    intro tag s hs hne
    rw [Table.get?_insert] at hs
    split at hs
    · exact absurd (Option.some.inj hs).symm (hne g)
    · exact hs
  constructor
  · exact h.nextId_pos
  · exact fun hs => h.loading_pos (old hs (by simp))
  · exact fun hs => h.loading_lt (old hs (by simp))
  · exact fun hs => h.loading_open (old hs (by simp))
  · exact fun hs hs' => h.loading_unique (old hs (by simp)) (old hs' (by simp))
  · exact h.outcome_lt
  · exact fun hs => h.provided (old hs (by simp))
  · exact fun hs => h.loading_provided (old hs (by simp))

theorem Turn.sound (t : Turn r a r') (h : Sound r) : Sound r' := by
  cases t with
  | idle tasks =>
      exact ⟨h.nextId_pos, h.loading_pos, h.loading_lt, h.loading_open, h.loading_unique,
        h.outcome_lt, h.provided, h.loading_provided⟩
  | start language failures tasks hplain hslot hloader => exact h.start failures tasks hloader
  | resolve language failures id slot outcome tasks hslot hend => exact h.resolve tasks hslot hend
  | adopt language g hready hload => exact h.adopt language g

theorem Sound.after (h : Sound r) (es : List (Nat × RegistryEvent)) : Sound (r.after es) := by
  induction es generalizing r with
  | nil => exact h
  | cons e es ih =>
      apply ih
      rcases r.occur_turn e.1 e.2 with t | ⟨_, _, _, t⟩
      · exact t.sound h
      · exact t.sound h

theorem Reachable.sound (h : Reachable r) : Sound r := by
  obtain ⟨loaders, retry, es, rfl⟩ := h
  exact (sound_new loaders retry).after es

/-- No tag is loading under the number of a load that is over. -/
theorem Sound.not_loading (h : Sound r) {l : Load} (hl : r.isFinished l = true) (tag : String)
    (failures : Nat) : r.slots.get? tag ≠ some (.loading failures l.id) := by
  intro hs
  simp [isFinished, outcome?, h.loading_open hs] at hl

/-! ### Tags that cannot be loaded -/

/-- Nothing provides the tag, or all its loads have failed. -/
def Hopeless (r : Registry) (language : String) : Prop :=
  r.status language = .unknown ∨ ∃ failures, r.status language = .gaveUp failures

theorem hopeless_iff (r : Registry) {language : String}
    (hplain : Language.isPlain language = false) :
    r.Hopeless language ↔
      (r.slots.get? language = none ∧ r.loaderFor? language = none) ∨
        ∃ failures w, r.slots.get? language = some (.unregistered failures w) ∧
          r.retry.givesUp failures = true := by
  unfold Hopeless status
  cases hslot : r.slots.get? language with
  | none => cases hl : r.loaderFor? language <;> simp [hplain]
  | some slot =>
      cases slot with
      | registered g => simp [hplain]
      | loading failures id => simp [hplain]
      | unregistered failures w => cases hg : r.retry.givesUp failures <;> simp [hplain, hg]

/-- A tag that cannot be loaded stays so unless a grammar is registered for it by hand. -/
theorem Turn.hopeless (t : Turn r a r') {language : String}
    (hplain : Language.isPlain language = false) (h : r.Hopeless language)
    (ha : a ≠ some language) : r'.Hopeless language := by
  rw [hopeless_iff _ hplain] at h ⊢
  rw [t.loaderFor?_eq, t.retry_eq]
  have other : ∀ {tag} (slot : Slot), language ≠ tag →
      (r.slots.insert tag slot).get? language = r.slots.get? language :=
    fun slot hne => Table.get?_insert_of_ne r.slots slot hne
  cases t with
  | idle tasks => exact h
  | start tag failures tasks hp hslot hloader =>
      have hne : language ≠ tag := by
        rintro rfl
        rcases h with ⟨hn, hl⟩ | ⟨f, w, hs, hg⟩
        · simp [hl] at hloader
        · rcases hslot with hn | ⟨f', w', hs', hg'⟩
          · simp [hs] at hn
          · simp_all
      simpa only [other _ hne] using h
  | resolve tag failures id slot outcome tasks hslot hend =>
      have hne : language ≠ tag := by
        rintro rfl
        rcases h with ⟨hn, hl⟩ | ⟨f, w, hs, hg⟩ <;> simp_all
      simpa only [other _ hne] using h
  | adopt tag g hready hload =>
      have hne : language ≠ tag := fun he => ha (he ▸ rfl)
      simpa only [other _ hne] using h

/-- In a sound registry, a tag for which asking has no effect is registered or cannot be loaded. -/
theorem Sound.hopeless_of_ensureLoaded (h : Sound r) {language : String} {now : Nat}
    (hg : r.grammar? language = none) (hn : (r.ensureLoaded now language).1 = none)
    (hplain : Language.isPlain language = false) : r.Hopeless language := by
  rw [hopeless_iff _ hplain]
  unfold ensureLoaded at hn
  unfold grammar? at hg
  cases hslot : r.slots.get? language with
  | none =>
      cases hl : r.loaderFor? language with
      | none => exact Or.inl ⟨rfl, rfl⟩
      | some loader => simp [hplain, hslot, hl] at hn
  | some slot =>
      cases slot with
      | registered g => simp [hslot] at hg
      | loading failures id => simp [hplain, hslot] at hn
      | unregistered failures w =>
          cases hgive : r.retry.givesUp failures with
          | true => exact Or.inr ⟨failures, w, rfl, hgive⟩
          | false =>
              obtain ⟨loader, hl⟩ := Option.isSome_iff_exists.mp (h.provided hslot)
              simp [hplain, hslot, hgive, hl] at hn

end Highlight.Registry
