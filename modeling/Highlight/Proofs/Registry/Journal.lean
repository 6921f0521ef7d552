import Highlight.Proofs.Registry.Sound

/-!
# The journal of a registry

An observer of a registry puts down which loads are started, how the current load of a tag ends, and
which grammars are offered by hand.  `Effect` says once what an event does to the registry and what
is put down about it; what holds of every registry and its journal is proved along it, by induction
on the events.
-/

namespace Highlight

inductive RegistryNote where
  /-- A load was started at a time. -/
  | started (l : Load) (time : Nat)
  /-- The task of a tag's current load reported at a time. -/
  | ended (l : Load) (time : Nat) (result : LoadResult)
  | offered (language : String) (g : Grammar)

namespace RegistryNote

def start? : RegistryNote → Option Load
  | started l _ => some l
  | _ => none

/-- The time of a failure, if a load of the tag failed. -/
def failure? (language : String) : RegistryNote → Option Nat
  | ended l time (.error _) => if l.language = language then some time else none
  | _ => none

/-- The grammar that arrived for a tag, by a load of the tag or by hand. -/
def arrival? (language : String) : RegistryNote → Option Grammar
  | ended l _ (.ok g) => if l.language = language then some g else none
  | offered tag g => if tag = language then some g else none
  | _ => none

end RegistryNote

namespace Registry

/-- Whether the tag of a load is being loaded under that load. -/
def isCurrent (r : Registry) (l : Load) : Bool :=
  match r.slots.get? l.language with
  | some (.loading _ id) => id == l.id
  | _ => false

/-- The failed loads that are counted for a tag. -/
def failures (r : Registry) (language : String) : Nat :=
  match r.slots.get? language with
  | some (.unregistered failures _) => failures
  | some (.loading failures _) => failures
  | _ => 0

def currentTask? (r : Registry) (id : Nat) : Option LoadTask :=
  (r.tasks.find? (·.load.id == id)).filter (r.isCurrent ·.load)

/-- What is put down about an event. -/
def note? (r : Registry) (now : Nat) : RegistryEvent → Option RegistryNote
  | .ensure language =>
      if r.status language = .loading then none
      else (r.ensureLoaded now language).1.map (.started · now)
  | .register language g => some (.offered language g)
  | .finish id result => (r.currentTask? id).map fun t => .ended t.load now result

/-- What is put down about events, in their order. -/
def journal (r : Registry) : List (Nat × RegistryEvent) → List RegistryNote
  | [] => []
  | e :: es => (r.note? e.1 e.2).toList ++ (r.occur e.1 e.2).journal es

/-- The loads that were started, in their order. -/
def starts (notes : List RegistryNote) : List Load := notes.filterMap RegistryNote.start?

/-- The times at which loads of a tag failed, in their order. -/
def failureTimes (language : String) (notes : List RegistryNote) : List Nat :=
  notes.filterMap (RegistryNote.failure? language)

/-- The grammars that arrived for a tag, in their order. -/
def arrivals (language : String) (notes : List RegistryNote) : List Grammar :=
  notes.filterMap (RegistryNote.arrival? language)

theorem starts_append (xs ys : List RegistryNote) : starts (xs ++ ys) = starts xs ++ starts ys :=
  List.filterMap_append

theorem starts_append_of_none {note : RegistryNote} (h : note.start? = none)
    (notes : List RegistryNote) : starts (notes ++ [note]) = starts notes := by
  simp [starts, h]

theorem failureTimes_append (language : String) (xs ys : List RegistryNote) :
    failureTimes language (xs ++ ys) = failureTimes language xs ++ failureTimes language ys :=
  List.filterMap_append

theorem arrivals_append (language : String) (xs ys : List RegistryNote) :
    arrivals language (xs ++ ys) = arrivals language xs ++ arrivals language ys :=
  List.filterMap_append

variable {r r' : Registry} {now : Nat}

theorem isCurrent_iff (r : Registry) (l : Load) :
    r.isCurrent l = true ↔ ∃ failures, r.slots.get? l.language = some (.loading failures l.id) := by
  unfold isCurrent
  cases hslot : r.slots.get? l.language with
  | none => simp
  | some slot => cases slot <;> simp

theorem currentTask?_eq_some_iff (r : Registry) (id : Nat) (t : LoadTask) :
    r.currentTask? id = some t ↔
      r.tasks.find? (·.load.id == id) = some t ∧ r.isCurrent t.load = true :=
  Option.filter_eq_some_iff

theorem isReady_iff (r : Registry) (language : String) :
    r.isReady language = true ↔ ∃ g, r.slots.get? language = some (.registered g) := by
  unfold isReady
  cases hslot : r.slots.get? language with
  | none => simp
  | some slot => cases slot <;> simp

/-! ### What an event does -/

/-- An event at a time, what is put down about it, and the registry afterwards. -/
inductive Effect (r : Registry) (now : Nat) :
    RegistryEvent → Option RegistryNote → Registry → Prop
  | asked (language : String) : Effect r now (.ensure language) none r
  | started (language : String) (failures : Nat) (retryAt : Option Nat) (loader : Loader)
      (hplain : Language.isPlain language = false)
      (hslot : r.Awaits language failures retryAt)
      (hloader : r.loaderFor? language = some loader) :
      Effect r now (.ensure language) (some (.started ⟨r.nextId, language⟩ now))
        (r.start now language failures retryAt loader).2
  | refused (language : String) (g g' : Grammar)
      (hslot : r.slots.get? language = some (.registered g')) :
      Effect r now (.register language g) (some (.offered language g)) r
  | overtook (language : String) (g : Grammar) (failures id : Nat)
      (hslot : r.slots.get? language = some (.loading failures id)) :
      Effect r now (.register language g) (some (.offered language g))
        { r with
          slots := r.slots.insert language (.registered g)
          outcomes := r.outcomes.insert id (.ok ()) }
  | adopted (language : String) (g : Grammar)
      (hslot : r.slots.get? language = none ∨
        ∃ failures retryAt, r.slots.get? language = some (.unregistered failures retryAt)) :
      Effect r now (.register language g) (some (.offered language g))
        { r with slots := r.slots.insert language (.registered g) }
  | late (id : Nat) (result : LoadResult) (htask : r.currentTask? id = none) :
      Effect r now (.finish id result) none
        { r with tasks := r.tasks.filter (·.load.id != id) }
  | loaded (t : LoadTask) (g : Grammar) (failures : Nat)
      (htask : r.tasks.find? (·.load.id == t.load.id) = some t)
      (hslot : r.slots.get? t.load.language = some (.loading failures t.load.id)) :
      Effect r now (.finish t.load.id (.ok g)) (some (.ended t.load now (.ok g)))
        { r with
          slots := r.slots.insert t.load.language (.registered g)
          outcomes := r.outcomes.insert t.load.id (.ok ())
          tasks := r.tasks.filter (·.load.id != t.load.id) }
  | failed (t : LoadTask) (e : GrammarError) (failures : Nat)
      (htask : r.tasks.find? (·.load.id == t.load.id) = some t)
      (hslot : r.slots.get? t.load.language = some (.loading failures t.load.id)) :
      Effect r now (.finish t.load.id (.error e)) (some (.ended t.load now (.error e)))
        { r with
          slots := r.slots.insert t.load.language
            (.unregistered (failures + 1) (some (now + r.retry.backoff (failures + 1))))
          outcomes := r.outcomes.insert t.load.id (.error e)
          tasks := r.tasks.filter (·.load.id != t.load.id) }

section

variable {language : String}

theorem ensure_effect (r : Registry) (now : Nat) (language : String) :
    Effect r now (.ensure language) (r.note? now (.ensure language))
      (r.ensureLoaded now language).2 := by
  rcases r.ensureLoaded_cases now language with
    ⟨hsame, hold⟩ | ⟨failures, retryAt, loader, hplain, hawaits, hloader, hstart⟩
  · have hnote : r.note? now (.ensure language) = none := by
      cases hl : (r.ensureLoaded now language).1 with
      | none => simp [note?, hl]
      | some l => simp [note?, (hold l hl).2.1]
    rw [hnote, hsame]
    exact .asked language
  · have hstatus : r.status language ≠ .loading := by simp [hawaits.status_eq hplain hloader]
    simp only [note?, if_neg hstatus, hstart, Option.map_some]
    exact .started language failures retryAt loader hplain hawaits hloader

theorem register_effect (r : Registry) (now : Nat) (language : String) (g : Grammar) :
    Effect r now (.register language g) (r.note? now (.register language g))
      (r.register language g).2 := by
  unfold Registry.register
  cases hslot : r.slots.get? language with
  | none => exact .adopted language g (Or.inl hslot)
  | some slot =>
      cases slot with
      | registered g' => exact .refused language g g' hslot
      | loading failures id => exact .overtook language g failures id hslot
      | unregistered failures retryAt =>
          exact .adopted language g (Or.inr ⟨failures, retryAt, hslot⟩)

/-- A load that is no longer that of its tag is over without effect. -/
theorem complete_of_not_current {l : Load} (h : r.isCurrent l = false) (now : Nat)
    (result : LoadResult) : r.complete now l result = r := by
  unfold complete
  cases hslot : r.slots.get? l.language with
  | none => rfl
  | some slot =>
      cases slot with
      | unregistered failures retryAt => rfl
      | registered g => rfl
      | loading failures id =>
          have hid : id ≠ l.id := by simpa [isCurrent, hslot] using h
          simp only [if_neg hid]

theorem finish_of_not_current {id : Nat} (h : r.currentTask? id = none) (now : Nat)
    (result : LoadResult) :
    r.finish now id result = { r with tasks := r.tasks.filter (·.load.id != id) } := by
  unfold finish
  cases ht : r.tasks.find? (·.load.id == id) with
  | none =>
      have hall : r.tasks.filter (·.load.id != id) = r.tasks := by
        rw [List.filter_eq_self]
        intro t hmem
        simpa using List.find?_eq_none.mp ht t hmem
      rw [hall]
  | some t =>
      have hcurrent : r.isCurrent t.load = false := by simpa [currentTask?, ht] using h
      exact complete_of_not_current
        (r := { r with tasks := r.tasks.filter (·.load.id != id) }) hcurrent now result

theorem finish_effect (r : Registry) (now id : Nat) (result : LoadResult) :
    Effect r now (.finish id result) (r.note? now (.finish id result))
      (r.finish now id result) := by
  cases hc : r.currentTask? id with
  | none =>
      simp only [note?, hc, Option.map_none, finish_of_not_current hc]
      exact .late id result hc
  | some t =>
      obtain ⟨ht, hcurrent⟩ := (r.currentTask?_eq_some_iff id t).mp hc
      obtain ⟨failures, hslot⟩ := (r.isCurrent_iff t.load).mp hcurrent
      obtain rfl : t.load.id = id := by simpa using List.find?_some ht
      simp only [note?, hc, Option.map_some, finish, ht, complete, hslot, if_true]
      cases result with
      | ok g => exact .loaded t g failures ht hslot
      | error e => exact .failed t e failures ht hslot

/-- Every event has its effect and is put down. -/
theorem occur_effect (r : Registry) (now : Nat) (e : RegistryEvent) :
    Effect r now e (r.note? now e) (r.occur now e) := by
  cases e with
  | ensure language => exact r.ensure_effect now language
  | register language g => exact r.register_effect now language g
  | finish id result => exact r.finish_effect now id result

end

/-! ### Runs -/

variable {e : RegistryEvent} {n : Option RegistryNote}

theorem Effect.sound (t : Effect r now e n r') (h : Sound r) : Sound r' := by
  cases t with
  | asked language => exact h
  | started language failures retryAt loader hplain hslot hloader =>
      exact h.start failures _ (by simp [hloader])
  | refused language g g' hslot => exact h
  | overtook language g failures id hslot => exact h.resolve r.tasks hslot (.success g)
  | adopted language g hslot => exact h.adopt language g
  | late id result htask => exact (Turn.idle _).sound h
  | loaded t g failures htask hslot => exact h.resolve _ hslot (.success g)
  | failed t e failures htask hslot => exact h.resolve _ hslot (.failure _ e)

/-- A registered grammar is there for good. -/
theorem grammar?_after {language : String} {g : Grammar} (h : r.grammar? language = some g)
    (es : List (Nat × RegistryEvent)) : (r.after es).grammar? language = some g := by
  induction es generalizing r with
  | nil => exact h
  | cons e es ih =>
      apply ih
      rcases r.occur_turn e.1 e.2 with t | ⟨_, _, _, t⟩
      · exact t.grammar?_eq h
      · exact t.grammar?_eq h

theorem isReady_after {language : String} (h : r.isReady language = true)
    (es : List (Nat × RegistryEvent)) : (r.after es).isReady language = true := by
  obtain ⟨g, hg⟩ := (r.isReady_iff language).mp h
  have hkept := grammar?_after ((grammar?_eq_some_iff _ _ _).mpr hg) es
  exact ((r.after es).isReady_iff language).mpr ⟨g, (grammar?_eq_some_iff _ _ _).mp hkept⟩

/-- What every event preserves, together with what is put down about it, holds after every run. -/
theorem journal_induction {P : Registry → List RegistryNote → Prop}
    (hstep : ∀ {r now e n r' notes}, Effect r now e n r' → P r notes → P r' (notes ++ n.toList))
    (h : P r []) (es : List (Nat × RegistryEvent)) : P (r.after es) (r.journal es) := by
  have hrun : ∀ {r notes}, P r notes → P (r.after es) (notes ++ r.journal es) := by
    induction es with
    | nil =>
        intro r notes hp
        simpa [after, journal] using hp
    | cons e es ih =>
        intro r notes hp
        simpa [after, journal] using ih (hstep (r.occur_effect e.1 e.2) hp)
  exact hrun h

theorem journal_append (r : Registry) (es fs : List (Nat × RegistryEvent)) :
    r.journal (es ++ fs) = r.journal es ++ (r.after es).journal fs := by
  induction es generalizing r with
  | nil => rfl
  | cons e es ih => simp [journal, after, ih]

end Registry

end Highlight
