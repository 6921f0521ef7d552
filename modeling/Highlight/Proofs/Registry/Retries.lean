import Highlight.Proofs.Registry.Journal

/-!
# Failed loads are counted

The slot of a tag carries the number of its failed loads from one load to the next, and after a
failure the time from which the next load may call its loader.  `Counted` compares what the slot
says with the journal; the count is neither lost nor reset, so a tag is loaded only as often as the
policy allows.
-/

namespace Highlight.Registry

variable {r r' : Registry} {now : Nat} {e : RegistryEvent} {n : Option RegistryNote}
  {retry : RetryPolicy} {tag : String} {notes : List RegistryNote}

/-- The loads of a tag that were started, in their order. -/
def startsOf (tag : String) (notes : List RegistryNote) : List Load :=
  (starts notes).filter (·.language == tag)

theorem startsOf_append (tag : String) (xs ys : List RegistryNote) :
    startsOf tag (xs ++ ys) = startsOf tag xs ++ startsOf tag ys := by
  rw [startsOf, starts_append, List.filter_append]
  rfl

/-- The time at which a load that is started at a time calls its loader, after what was put down
before: at once, or after the wait for a retry. -/
def dueTime (retry : RetryPolicy) (tag : String) (earlier : List RegistryNote) (time : Nat) : Nat :=
  let failed := failureTimes tag earlier
  match failed.getLast? with
  | none => time
  | some t => max time (t + retry.backoff failed.length)

/-- What the slot of a tag says about its loads is what was put down about them. -/
def Counted (retry : RetryPolicy) (tag : String) (notes : List RegistryNote) : Option Slot → Prop
  | none => (startsOf tag notes).length = 0 ∧ failureTimes tag notes = []
  | some (.unregistered failures retryAt) =>
      Language.isPlain tag = false ∧ 1 ≤ failures ∧ failures ≤ max 1 retry.maxAttempts ∧
        (startsOf tag notes).length = failures ∧ (failureTimes tag notes).length = failures ∧
        ∃ t, (failureTimes tag notes).getLast? = some t ∧
          retryAt = some (t + retry.backoff failures)
  | some (.loading failures _) =>
      Language.isPlain tag = false ∧ (failures = 0 ∨ retry.givesUp failures = false) ∧
        (startsOf tag notes).length = failures + 1 ∧ (failureTimes tag notes).length = failures
  | some (.registered _) => (startsOf tag notes).length ≤ max 1 retry.maxAttempts

theorem not_givesUp_iff (retry : RetryPolicy) (failures : Nat) :
    retry.givesUp failures = false ↔ failures < retry.maxAttempts := by
  simp [RetryPolicy.givesUp]

theorem Counted.starts_le {slot : Option Slot} (h : Counted retry tag notes slot) :
    (startsOf tag notes).length ≤ max 1 retry.maxAttempts := by
  cases slot with
  | none =>
      have hstarts : (startsOf tag notes).length = 0 := h.1
      omega
  | some slot =>
      cases slot with
      | unregistered failures retryAt =>
          obtain ⟨-, -, hle, hstarts, -⟩ := h
          omega
      | loading failures id =>
          obtain ⟨-, hgive, hstarts, -⟩ := h
          rcases hgive with rfl | hgive
          · omega
          · have hlt := (not_givesUp_iff retry failures).mp hgive
            omega
      | registered g => exact h

theorem Counted.failures_eq (h : Counted retry tag notes (r.slots.get? tag))
    (hready : r.isReady tag = false) : r.failures tag = (failureTimes tag notes).length := by
  unfold failures
  unfold isReady at hready
  cases hslot : r.slots.get? tag with
  | none =>
      have hfailed : failureTimes tag notes = [] := (hslot ▸ h).2
      simp [hfailed]
  | some slot =>
      rw [hslot] at h
      cases slot with
      | unregistered failures retryAt =>
          obtain ⟨-, -, -, -, hfailed, -⟩ := h
          exact hfailed.symm
      | loading failures id =>
          obtain ⟨-, -, -, hfailed⟩ := h
          exact hfailed.symm
      | registered g => simp [hslot] at hready

/-- A load that begins waits as long as what was put down before demands. -/
theorem Awaits.callAt_eq {failures : Nat} {retryAt : Option Nat}
    (hawaits : r.Awaits tag failures retryAt)
    (h : Counted r.retry tag notes (r.slots.get? tag)) (now : Nat) :
    max now (retryAt.getD now) = dueTime r.retry tag notes now := by
  rcases hawaits with ⟨hslot, -, rfl⟩ | ⟨hslot, -⟩
  · obtain ⟨-, hfailed⟩ := hslot ▸ h
    simp [dueTime, hfailed]
  · obtain ⟨-, -, -, -, hlength, t, hlast, rfl⟩ := hslot ▸ h
    simp [dueTime, hlast, hlength]

/-! ### What one event does -/

theorem Counted.of_same {more : List RegistryNote} {slot : Option Slot}
    (h : Counted retry tag notes slot) (hstarts : startsOf tag more = [])
    (hfailed : failureTimes tag more = []) : Counted retry tag (notes ++ more) slot := by
  unfold Counted at h ⊢
  simpa only [startsOf_append, failureTimes_append, hstarts, hfailed, List.append_nil] using h

theorem Counted.of_started {failures : Nat} {retryAt : Option Nat}
    (h : Counted r.retry tag notes (r.slots.get? tag)) (hplain : Language.isPlain tag = false)
    (hawaits : r.Awaits tag failures retryAt) (id now : Nat) :
    Counted r.retry tag (notes ++ [.started ⟨id, tag⟩ now]) (some (.loading failures id)) := by
  have hnew : startsOf tag [.started ⟨id, tag⟩ now] = [⟨id, tag⟩] := by
    simp [startsOf, starts, RegistryNote.start?]
  have hfailed : failureTimes tag [.started ⟨id, tag⟩ now] = [] := rfl
  simp only [Counted, startsOf_append, failureTimes_append, hnew, hfailed, List.append_nil,
    List.length_append, List.length_singleton]
  rcases hawaits with ⟨hslot, rfl, -⟩ | ⟨hslot, hgive⟩
  · obtain ⟨hstarts, hnone⟩ := hslot ▸ h
    exact ⟨hplain, Or.inl rfl, by omega, by simp [hnone]⟩
  · obtain ⟨-, -, -, hstarts, hlength, -⟩ := hslot ▸ h
    exact ⟨hplain, Or.inr hgive, by omega, hlength⟩

theorem Counted.of_failed {failures id : Nat}
    (h : Counted retry tag notes (some (.loading failures id))) (l : Load) (hl : l.language = tag)
    (now : Nat) (error : GrammarError) :
    Counted retry tag (notes ++ [.ended l now (.error error)])
      (some (.unregistered (failures + 1) (some (now + retry.backoff (failures + 1))))) := by
  obtain ⟨hplain, hgive, hstarts, hlength⟩ := h
  have hle : failures + 1 ≤ max 1 retry.maxAttempts := by
    rcases hgive with rfl | hgive
    · omega
    · have hlt := (not_givesUp_iff retry failures).mp hgive
      omega
  have hnew : failureTimes tag [.ended l now (.error error)] = [now] := by
    simp [failureTimes, RegistryNote.failure?, hl]
  have hnone : startsOf tag [.ended l now (.error error)] = [] := rfl
  simp only [Counted, startsOf_append, failureTimes_append, hnew, hnone, List.append_nil,
    List.length_append, List.length_singleton]
  exact ⟨hplain, by omega, hle, hstarts, by omega, now, by simp, rfl⟩

/-- A grammar that arrives starts no load. -/
theorem Counted.of_registered {slot : Option Slot} (h : Counted retry tag notes slot)
    {note : RegistryNote} (hnone : note.start? = none) (g : Grammar) :
    Counted retry tag (notes ++ [note]) (some (.registered g)) := by
  have hsame : startsOf tag [note] = [] := by simp [startsOf, starts, hnone]
  simpa only [Counted, startsOf_append, hsame, List.append_nil] using h.starts_le

theorem Effect.counted (t : Effect r now e n r')
    (h : Counted r.retry tag notes (r.slots.get? tag)) :
    Counted r'.retry tag (notes ++ n.toList) (r'.slots.get? tag) := by
  -- an event is about one tag, and nothing is put down about the others
  have other : ∀ {language : String} (slot : Slot) {note : RegistryNote}, tag ≠ language →
      startsOf tag [note] = [] → failureTimes tag [note] = [] →
      Counted r.retry tag (notes ++ [note]) ((r.slots.insert language slot).get? tag) := by
    intro language slot note hne hstarts hfailed
    rw [Table.get?_insert_of_ne r.slots slot hne]
    exact h.of_same hstarts hfailed
  have arrived : ∀ {language : String} (g : Grammar) {note : RegistryNote}, note.start? = none →
      failureTimes tag [note] = [] →
      Counted r.retry tag (notes ++ [note])
        ((r.slots.insert language (.registered g)).get? tag) := by
    intro language g note hnone hfailed
    by_cases htag : tag = language
    · rw [htag, Table.get?_insert_self, ← htag]
      exact h.of_registered hnone g
    · exact other _ htag (by simp [startsOf, starts, hnone]) hfailed
  cases t with
  | asked language => simpa using h
  | started language failures retryAt loader hplain hslot hloader =>
      by_cases htag : tag = language
      · subst htag
        simpa [start] using h.of_started hplain hslot r.nextId now
      · have hne : language ≠ tag := fun heq => htag heq.symm
        exact other _ htag (by simp [startsOf, starts, RegistryNote.start?, hne]) rfl
  | refused language g g' hslot => exact h.of_same rfl rfl
  | overtook language g failures id hslot => exact arrived g rfl rfl
  | adopted language g hslot => exact arrived g rfl rfl
  | late id result htask => simpa using h
  | loaded t g failures htask hslot => exact arrived g rfl rfl
  | failed t error failures htask hslot =>
      by_cases htag : tag = t.load.language
      · subst htag
        rw [hslot] at h
        simpa using h.of_failed t.load rfl now error
      · have hne : t.load.language ≠ tag := fun heq => htag heq.symm
        exact other _ htag rfl (by simp [failureTimes, RegistryNote.failure?, hne])

end Highlight.Registry
