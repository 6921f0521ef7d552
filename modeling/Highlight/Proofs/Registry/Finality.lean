import Highlight.Proofs.Registry.Journal

/-!
# Registered grammars are final

The grammar of a tag is the first one that arrived for it, by hand or by the current load of the
tag.  So a registered grammar is never replaced, and a status moves only the way from `unregistered`
over `loading` to its end, or at once to `registered`.
-/

namespace Highlight

/-- How the status of a tag may change in one event. -/
inductive GrammarStatus.Next : GrammarStatus → GrammarStatus → Prop
  | same (s : GrammarStatus) : Next s s
  | load (failures : Nat) : Next (.unregistered failures) .loading
  | arrive (s : GrammarStatus) : Next s .registered
  | fail (failures : Nat) : Next .loading (.unregistered failures)
  | giveUp (failures : Nat) : Next .loading (.gaveUp failures)

/-- The grammar in a slot, if it is registered. -/
def Slot.grammar? : Slot → Option Grammar
  | registered g => some g
  | _ => none

namespace Registry

variable {r r' : Registry} {now : Nat} {e : RegistryEvent} {n : Option RegistryNote}

theorem grammar?_of_insert {language : String} {slot : Slot}
    (h : r'.slots = r.slots.insert language slot) (tag : String) :
    r'.grammar? tag = if tag = language then slot.grammar? else r.grammar? tag := by
  simp only [grammar?, h, Table.get?_insert]
  by_cases htag : tag = language
  · simp only [if_pos htag]
    cases slot <;> rfl
  · simp only [if_neg htag]

theorem grammar?_eq_none_of_loading {tag : String} {failures id : Nat}
    (h : r.slots.get? tag = some (.loading failures id)) : r.grammar? tag = none := by
  rw [grammar?, h]

theorem grammar?_eq_none_of_unregistered {tag : String}
    (h : r.slots.get? tag = none ∨
      ∃ failures retryAt, r.slots.get? tag = some (.unregistered failures retryAt)) :
    r.grammar? tag = none := by
  rcases h with hn | ⟨failures, retryAt, hu⟩
  · rw [grammar?, hn]
  · rw [grammar?, hu]

/-- A tag without a grammar takes the one that is put into its slot. -/
theorem grammar?_of_put {language : String} {g : Grammar} (hnone : r.grammar? language = none)
    (h : r'.slots = r.slots.insert language (.registered g)) (tag : String) :
    r'.grammar? tag = (r.grammar? tag).or (if language = tag then some g else none) := by
  rw [grammar?_of_insert h]
  by_cases htag : tag = language
  · simp [htag, hnone, Slot.grammar?]
  · simp [htag, Ne.symm htag]

theorem grammar?_of_other {language : String} {slot : Slot} (hnone : r.grammar? language = none)
    (hslot : slot.grammar? = none) (h : r'.slots = r.slots.insert language slot) (tag : String) :
    r'.grammar? tag = r.grammar? tag := by
  rw [grammar?_of_insert h]
  by_cases htag : tag = language
  · rw [if_pos htag, hslot, htag, hnone]
  · rw [if_neg htag]

/-- A grammar that was there stays, and a tag without one takes what arrives. -/
theorem Effect.grammar?_eq_or (t : Effect r now e n r') (tag : String) :
    r'.grammar? tag = (r.grammar? tag).or (arrivals tag n.toList).head? := by
  have arrived : ∀ {note : RegistryNote} {found : Option Grammar}, note.arrival? tag = found →
      (arrivals tag [note]).head? = found := by
    rintro note found rfl
    cases h : note.arrival? tag <;> simp [arrivals, h]
  cases t with
  | asked language => exact (Option.or_none ..).symm
  | started language failures retryAt loader hplain hslot hloader =>
      have hput : (r.start now language failures retryAt loader).2.slots =
          r.slots.insert language (.loading failures r.nextId) := rfl
      exact (grammar?_of_other hslot.grammar?_eq_none rfl hput tag).trans (Option.or_none ..).symm
  | refused language g g' hslot =>
      rw [Option.toList_some, arrived rfl]
      by_cases htag : language = tag
      · subst htag
        simp [grammar?, hslot]
      · simp [RegistryNote.arrival?, htag]
  | overtook language g failures id hslot =>
      rw [Option.toList_some, arrived rfl]
      exact grammar?_of_put (grammar?_eq_none_of_loading hslot) rfl tag
  | adopted language g hslot =>
      rw [Option.toList_some, arrived rfl]
      exact grammar?_of_put (grammar?_eq_none_of_unregistered hslot) rfl tag
  | late id result htask => exact (Option.or_none ..).symm
  | loaded t g failures htask hslot =>
      rw [Option.toList_some, arrived rfl]
      exact grammar?_of_put (grammar?_eq_none_of_loading hslot) rfl tag
  | failed t e failures htask hslot =>
      have hnone := grammar?_eq_none_of_loading hslot
      rw [Option.toList_some, arrived rfl]
      refine (grammar?_of_other hnone ?_ rfl tag).trans (Option.or_none ..).symm
      rfl

theorem grammar?_eq_head?_arrivals (loaders : List Loader) (retry : RetryPolicy)
    (es : List (Nat × RegistryEvent)) (tag : String) :
    (after { loaders, retry } es).grammar? tag =
      (arrivals tag (journal { loaders, retry } es)).head? := by
  have hstep : ∀ {r now e n r' notes}, Effect r now e n r' →
      r.grammar? tag = (arrivals tag notes).head? →
      r'.grammar? tag = (arrivals tag (notes ++ n.toList)).head? := by
    intro r now e n r' notes t h
    rw [t.grammar?_eq_or, arrivals_append, List.head?_append, h]
  exact journal_induction (P := fun r notes => r.grammar? tag = (arrivals tag notes).head?) hstep
    rfl es

/-! ### Statuses -/

theorem status_insert_of_ne (r : Registry) {tag tag' : String} (slot : Slot) (hne : tag' ≠ tag) :
    ({ r with slots := r.slots.insert tag slot } : Registry).status tag' = r.status tag' := by
  simp only [status, Table.get?_insert_of_ne r.slots slot hne]
  rfl

theorem status_insert_registered (r : Registry) {tag : String}
    (hplain : Language.isPlain tag = false) (g : Grammar) :
    ({ r with slots := r.slots.insert tag (.registered g) } : Registry).status tag =
      .registered := by
  simp [status, hplain]

theorem Effect.status_next (t : Effect r now e n r') {tag : String}
    (hplain : Language.isPlain tag = false) : (r.status tag).Next (r'.status tag) := by
  have arrive : ∀ {language : String} (g : Grammar), (r.status tag).Next
      (({ r with slots := r.slots.insert language (.registered g) } : Registry).status tag) := by
    intro language g
    by_cases htag : tag = language
    · subst htag
      rw [status_insert_registered r hplain]
      exact .arrive _
    · rw [status_insert_of_ne r _ htag]
      exact .same _
  cases t with
  | asked language => exact .same _
  | started language failures retryAt loader hplain' hslot hloader =>
      by_cases htag : tag = language
      · subst htag
        have hafter : (r.start now tag failures retryAt loader).2.status tag = .loading := by
          simp [status, start, hplain]
        rw [hslot.status_eq hplain hloader, hafter]
        exact .load failures
      · have hsame := status_insert_of_ne r (.loading failures r.nextId) htag
        exact hsame.symm ▸ .same _
  | refused language g g' hslot => exact .same _
  | overtook language g failures id hslot => exact arrive g
  | adopted language g hslot => exact arrive g
  | late id result htask => exact .same _
  | loaded t g failures htask hslot => exact arrive g
  | failed t e failures htask hslot =>
      by_cases htag : tag = t.load.language
      · subst htag
        have hbefore : r.status t.load.language = .loading := by simp [status, hplain, hslot]
        rw [hbefore]
        cases hgive : r.retry.givesUp (failures + 1) with
        | true =>
            simp only [status, hplain, Table.get?_insert_self, hgive, if_true]
            exact .giveUp _
        | false =>
            simp only [status, hplain, Table.get?_insert_self, hgive]
            exact .fail _
      · have hsame := status_insert_of_ne r (.unregistered (failures + 1)
          (some (now + r.retry.backoff (failures + 1)))) htag
        exact hsame.symm ▸ .same _

theorem register_eq (r : Registry) (language : String) (g : Grammar) :
    (r.register language g).1 = !r.isReady language ∧
      (r.isReady language = true → (r.register language g).2 = r) := by
  unfold register isReady
  cases r.slots.get? language with
  | none => simp
  | some slot => cases slot <;> simp

/-- Whatever has happened to a registry, the grammar of a tag is the first that arrived, and no
later event replaces it; a registration by hand is taken if and only if the tag had no grammar, and
changes nothing otherwise; and in every event the status of a tag goes only the ways of
`GrammarStatus.Next`. -/
theorem registered_grammar_is_final (loaders : List Loader) (retry : RetryPolicy)
    (es : List (Nat × RegistryEvent)) :
    let new : Registry := { loaders, retry }
    let r := new.after es
    (∀ tag, r.grammar? tag = (arrivals tag (new.journal es)).head?) ∧
    (∀ tag g, r.grammar? tag = some g → ∀ later, (r.after later).grammar? tag = some g) ∧
    (∀ tag g, (r.register tag g).1 = !r.isReady tag ∧
      (r.isReady tag = true → (r.register tag g).2 = r)) ∧
    ∀ now e tag, Language.isPlain tag = false →
      (r.status tag).Next ((r.occur now e).status tag) := by
  intro new r
  refine ⟨?_, ?_, ?_, ?_⟩
  · exact fun tag => grammar?_eq_head?_arrivals loaders retry es tag
  · exact fun tag g h later => grammar?_after h later
  · exact fun tag g => r.register_eq tag g
  · exact fun now e tag hplain => (r.occur_effect now e).status_next hplain

end Registry

end Highlight
