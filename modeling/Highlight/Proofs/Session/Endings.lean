import Highlight.Proofs.Session.Books

/-!
# Tasks that go on

A follow-up that goes on waits for fewer loads, or ends: with its request when its loads are over,
without one when its surface is gone.
-/

namespace Highlight

variable {w w' : Timeline} {sch : Scheduler} {l : Ledger}

/-- A task is gone; a request was made perhaps. -/
structure Timeline.Ended (w w' : Timeline) (id : Nat) : Prop where
  tasks_eq : w'.tasks = (w.dropTask id).tasks
  nextTask_eq : w'.nextTask = w.nextTask
  surfaces_eq : w'.surfaces = w.surfaces
  depot_eq : w'.depot = w.depot

theorem Timeline.Ended.mem_tasks {id : Nat} (h : w.Ended w' id) (t : SurfaceTask) :
    t ∈ w'.tasks ↔ t ∈ w.tasks ∧ t.id ≠ id := by
  rw [h.tasks_eq]
  exact Timeline.mem_dropTask id t

theorem Timeline.Ended.isLive_eq {id : Nat} (h : w.Ended w' id) : w'.isLive = w.isLive := by
  funext n
  rw [Timeline.isLive, Timeline.isLive, h.surfaces_eq]

theorem Timeline.Ended.registry_eq {id : Nat} (h : w.Ended w' id) : w'.registry = w.registry :=
  congrArg Depot.registry h.depot_eq

theorem Books.next_ended (h : Books sch w l) {id : Nat} (he : w.Ended w' id) (hw' : w'.Numbered)
    (surface? : Option Nat) :
    l.next surface? w w' [] =
      { l with
        batches := l.batches.map (Batch.close id
          (if w.dispatched.length < w'.dispatched.length then .answered else .dropped)) } := by
  have hbatches : l.batches.map (Batch.next w w' []) = l.batches.map (Batch.close id
      (if w.dispatched.length < w'.dispatched.length then .answered else .dropped)) := by
    apply List.map_congr_left
    intro b hb
    by_cases hw : b.standing = .waiting
    · obtain ⟨done, pending, ht, -, -⟩ := (h.good b hb).waiting hw
      by_cases htask : b.task = id
      · rw [Batch.close_of_waiting hw htask, Batch.next_of_gone hw]
        exact fun t ht => htask ▸ ((he.mem_tasks t).mp ht).2
      · rw [Batch.close_of_not (fun hc => htask hc.2),
          Batch.next_of_mem h.orderly.numbered hw' hw ht
          ((he.mem_tasks _).mpr ⟨ht, htask⟩) List.drop_length]
        simp
    · rw [Batch.next_of_not_waiting hw, Batch.close_of_not (fun hc => hw hc.1)]
  rw [l.next_nil surface? fun t ht _ => h.orderly.numbered.id_lt t ((he.mem_tasks t).mp ht).1,
    hbatches]

/-- A follow-up ends in order: its loads are over, or its surface is gone. -/
def Batch.Ends (w : Timeline) (standing : Standing) (b : Batch) : Prop :=
  standing = .answered ∧ w.isLive b.surface = true ∧
      (∀ x ∈ b.loads, w.registry.isFinished x = true) ∨
    standing = .dropped ∧ w.isLive b.surface = false

theorem Batch.Good.ended {b : Batch} {standing : Standing} (h : b.Good w)
    (hw : b.standing = .waiting) (hends : b.Ends w standing) :
    Batch.Good w { b with standing } := by
  refine ⟨h.task_lt, h.surface_lt, h.loads_ne, h.ids, ?_, ?_, ?_, ?_⟩
  · exact fun _ => h.waiting hw
  · intro ha
    rcases hends with ⟨-, -, hover⟩ | ⟨hst, -⟩
    · exact hover
    · exact absurd (ha.symm.trans hst) Standing.noConfusion
  · intro hd
    rcases hends with ⟨hst, -⟩ | ⟨-, hdead⟩
    · exact absurd (hd.symm.trans hst) Standing.noConfusion
    · exact hdead
  · intro hk
    rcases hends with ⟨-, hlive, -⟩ | ⟨hst, -⟩
    · exact h.since_eq (Or.inr ⟨hw, hlive⟩)
    · simp [Batch.Kept, hst] at hk

theorem Batch.Good.without {b : Batch} {id : Nat} (h : b.Good w) (he : w.Ended w' id)
    (hne : b.standing = .waiting → b.task ≠ id) : b.Good w' where
  task_lt := he.nextTask_eq ▸ h.task_lt
  surface_lt := he.surfaces_eq ▸ h.surface_lt
  loads_ne := h.loads_ne
  ids := he.registry_eq ▸ h.ids
  waiting := by
    intro hw
    obtain ⟨done, pending, ht, hsplit, hdone⟩ := h.waiting hw
    exact ⟨done, pending, (he.mem_tasks _).mpr ⟨ht, hne hw⟩, hsplit, he.registry_eq ▸ hdone⟩
  answered := he.registry_eq ▸ h.answered
  dropped := he.isLive_eq ▸ h.dropped
  since_eq := by
    rw [Batch.Kept, he.isLive_eq]
    exact h.since_eq

/-- A task ends, and with it the batch that waits for it, if it is a follow-up. -/
theorem Books.closed (h : Books sch w l) {id : Nat} {standing : Standing}
    (horderly : sch.Orderly w') (he : w.Ended w' id)
    (hends : ∀ b ∈ l.batches, b.standing = .waiting → b.task = id → b.Ends w standing)
    (hrequests : ((w'.dispatched.filter (·.request == .grammarLoaded)).map Dispatched.surface).Perm
      (((l.batches.map (Batch.close id standing)).filter (·.standing == .answered)).map
        Batch.surface)) :
    Books sch w' { l with batches := l.batches.map (Batch.close id standing) } := by
  have hgood : ∀ b ∈ l.batches, (b.close id standing).Good w' := by
    intro b hb
    by_cases hc : b.standing = .waiting ∧ b.task = id
    · have hend := hends b hb hc.1 hc.2
      rw [Batch.close_of_waiting hc.1 hc.2]
      refine ((h.good b hb).ended hc.1 hend).without he ?_
      rcases hend with ⟨rfl, -⟩ | ⟨rfl, -⟩ <;> exact Standing.noConfusion
    · rw [Batch.close_of_not hc]
      exact (h.good b hb).without he fun hw htask => hc ⟨hw, htask⟩
  have hkept : ∀ b ∈ l.batches, (b.close id standing).Kept w' → b.Kept w := by
    intro b hb hk
    by_cases hc : b.standing = .waiting ∧ b.task = id
    · rcases hends b hb hc.1 hc.2 with ⟨-, hlive, -⟩ | ⟨hst, -⟩
      · exact Or.inr ⟨hc.1, hlive⟩
      · simp [Batch.Kept, Batch.close_of_waiting hc.1 hc.2, hst] at hk
    · rw [Batch.close_of_not hc, Batch.Kept, he.isLive_eq] at hk
      exact hk
  have hbooked : ∀ t ∈ w'.tasks, t.awaited.request = .grammarLoaded →
      ∃ b ∈ l.batches, b.task = t.id ∧ (b.close id standing).standing = .waiting := by
    intro t ht hreq
    obtain ⟨hmem, hne⟩ := (he.mem_tasks t).mp ht
    obtain ⟨b, hb, htask, hw⟩ := h.booked t hmem hreq
    refine ⟨b, hb, htask, ?_⟩
    rw [Batch.close_of_not fun hc => hne (htask.symm.trans hc.2)]
    exact hw
  refine h.mapped horderly (he.registry_eq ▸ h.sound) (fun b => ⟨?_, ?_, ?_⟩) hgood hkept hbooked
    hrequests
  · exact Batch.close_task id standing
  · exact Batch.close_surface id standing
  · exact Batch.close_loads id standing

theorem Batch.Good.advanced {b : Batch} (h : b.Good w) (hnumbered : w.Numbered)
    {done rest : List Load} (ht : ⟨b.task, b.surface, .loads (done ++ rest)⟩ ∈ w.tasks)
    (hdone : ∀ x ∈ done, w.registry.isFinished x = true) :
    b.Good (w.setAwaited b.task (.loads rest)) := by
  refine ⟨h.task_lt, h.surface_lt, h.loads_ne, h.ids, ?_, h.answered, h.dropped, h.since_eq⟩
  intro hw
  obtain ⟨before, pending, hmem, hsplit, hbefore⟩ := h.waiting hw
  obtain rfl : done ++ rest = pending := by simpa using hnumbered.eq_of_id_eq ht hmem rfl
  refine ⟨before ++ done, rest, Timeline.mem_setAwaited_self _ ht rfl, ?_, ?_⟩
  · rw [hsplit, List.append_assoc]
  · intro x hx
    rcases List.mem_append.mp hx with hx | hx
    · exact hbefore x hx
    · exact hdone x hx

theorem Books.advanced (h : Books sch w l) {t : SurfaceTask} (ht : t ∈ w.tasks)
    {done rest : List Load} (hloads : t.awaited = .loads (done ++ rest))
    (hdone : ∀ x ∈ done, w.registry.isFinished x = true) :
    Books sch (w.setAwaited t.id (.loads rest)) l := by
  have hwaits : t.awaited.request = .grammarLoaded := by
    rw [hloads]
    rfl
  refine ⟨h.orderly.setAwaited ht hwaits rest, h.sound, ?_, h.tasks_nodup, ?_, h.apart, h.handed,
    h.requests⟩
  · intro b hb
    have hgood := h.good b hb
    by_cases hmine : b.standing = .waiting ∧ t.id = b.task
    · obtain ⟨hw, htask⟩ := hmine
      obtain ⟨hsurface, -⟩ := h.task_of_waiting hb hw ht htask
      rw [htask]
      refine hgood.advanced h.orderly.numbered ?_ hdone
      rw [← htask, ← hsurface, ← hloads]
      exact ht
    · exact hgood.setAwaited_of_ne (fun hw htask => hmine ⟨hw, htask.symm⟩) _
  · intro u hu hreq
    rcases Timeline.mem_setAwaited hu with ⟨hold, -⟩ | ⟨v, hv, hvid, rfl⟩
    · exact h.booked u hold hreq
    · have heq := h.orderly.numbered.eq_of_id_eq hv ht hvid
      exact h.booked v hv (heq ▸ hwaits)

theorem Books.requests_ended (h : Books sch w l) {t : SurfaceTask} (ht : t ∈ w.tasks) :
    ((((w.dropTask t.id).dispatch t.surface t.awaited.request).dispatched.filter
        (·.request == .grammarLoaded)).map Dispatched.surface).Perm
      (((l.batches.map (Batch.close t.id .answered)).filter (·.standing == .answered)).map
        Batch.surface) := by
  have hdispatched : ((w.dropTask t.id).dispatch t.surface t.awaited.request).dispatched =
      w.dispatched ++ [⟨t.surface, t.awaited.request, w.now⟩] := rfl
  rw [hdispatched, List.filter_append, List.map_append]
  by_cases hreq : t.awaited.request = .grammarLoaded
  · obtain ⟨b, hb, htask, hw⟩ := h.booked t ht hreq
    have hclose := Batch.answered_close h.tasks_nodup hb hw
    have hsurface := (h.task_of_waiting hb hw ht htask.symm).1
    rw [htask, ← hsurface] at hclose
    have hlast : ([⟨t.surface, t.awaited.request, w.now⟩] : List Dispatched).filter
        (·.request == .grammarLoaded) = [⟨t.surface, t.awaited.request, w.now⟩] := by simp [hreq]
    rw [hlast]
    exact (List.perm_append_singleton _ _).trans ((h.requests.cons _).trans hclose.symm)
  · have hsame : l.batches.map (Batch.close t.id .answered) = l.batches := by
      refine (List.map_congr_left ?_).trans l.batches.map_id
      intro b hb
      apply Batch.close_of_not
      rintro ⟨hw, htask⟩
      obtain ⟨-, done, pending, hloads, -⟩ := h.task_of_waiting hb hw ht htask.symm
      exact hreq (by rw [hloads]; rfl)
    have hlast : ([⟨t.surface, t.awaited.request, w.now⟩] : List Dispatched).filter
        (·.request == .grammarLoaded) = [] := by simp [hreq]
    rw [hlast, hsame, List.map_nil, List.append_nil]
    exact h.requests

theorem Books.next_advanced (h : Books sch w l) {t : SurfaceTask} (ht : t ∈ w.tasks)
    {done rest : List Load} (hloads : t.awaited = .loads (done ++ rest)) (surface? : Option Nat) :
    l.next surface? w (w.setAwaited t.id (.loads rest)) [] = l := by
  have hbatches :
      l.batches.map (Batch.next w (w.setAwaited t.id (.loads rest)) []) = l.batches := by
    refine (List.map_congr_left ?_).trans l.batches.map_id
    intro b hb
    by_cases hw : b.standing = .waiting
    · have hshort : rest.drop (done ++ rest).length = [] :=
        List.drop_eq_nil_of_le (by simp)
      rw [h.map_next_setAwaited ht hloads [] hb hw, hshort]
      simp
    · exact Batch.next_of_not_waiting hw
  have hold : ∀ u ∈ (w.setAwaited t.id (.loads rest)).tasks,
      u.awaited.request = .grammarLoaded → u.id < w.nextTask :=
    fun u hu _ => (h.orderly.numbered.setAwaited _ _).id_lt u hu
  rw [l.next_nil surface? hold, hbatches]

theorem Books.pollTask (h : Books sch w l) (id : Nat) (surface? : Option Nat) :
    Books sch (w.pollTask id) (l.next surface? w (w.pollTask id) []) := by
  have hp := w.polled id
  have horderly := h.orderly.pollTask id
  generalize w.pollTask id = w' at hp horderly ⊢
  have hnumbered := h.orderly.numbered
  cases hp with
  | idle =>
      rw [h.next_still (.refl w) hnumbered]
      exact h
  | dropped t ht hid hdead =>
      have hsame : ¬ w.dispatched.length < (w.dropTask id).dispatched.length := Nat.lt_irrefl _
      have he : w.Ended (w.dropTask id) id := ⟨rfl, rfl, rfl, rfl⟩
      rw [h.next_ended he horderly.numbered, if_neg hsame]
      refine h.closed horderly he ?_ ?_
      · intro b hb hw htask
        obtain ⟨hsurface, -⟩ := h.task_of_waiting hb hw ht (hid.trans htask.symm)
        exact Or.inr ⟨rfl, hsurface ▸ hdead⟩
      · have hanswered : ∀ b : Batch,
            (b.close id .dropped).standing = .answered ↔ b.standing = .answered := by
          intro b
          by_cases hc : b.standing = .waiting ∧ b.task = id
          · simp [Batch.close_of_waiting hc.1 hc.2, hc.1]
          · rw [Batch.close_of_not hc]
        rw [Batch.answered_map _ hanswered fun _ => Batch.close_surface _ _]
        exact h.requests
  | ended t ht hid hlive hcome =>
      subst hid
      have hmore : w.dispatched.length <
          ((w.dropTask t.id).dispatch t.surface t.awaited.request).dispatched.length := by
        simp [Timeline.dispatch, Timeline.dropTask]
      have he : w.Ended ((w.dropTask t.id).dispatch t.surface t.awaited.request) t.id :=
        ⟨rfl, rfl, rfl, rfl⟩
      rw [h.next_ended he horderly.numbered, if_pos hmore]
      refine h.closed horderly he ?_ (h.requests_ended ht)
      intro b hb hw htask
      obtain ⟨hsurface, done, pending, hloads, hsplit, hdone⟩ :=
        h.task_of_waiting hb hw ht htask.symm
      refine Or.inl ⟨rfl, hsurface ▸ hlive, ?_⟩
      intro x hx
      rw [hsplit] at hx
      rcases List.mem_append.mp hx with hx | hx
      · exact hdone x hx
      · exact hcome pending hloads x hx
  | advanced t ht hid hlive done rest hloads hdone =>
      subst hid
      rw [h.next_advanced ht hloads surface?]
      exact h.advanced ht hloads hdone

end Highlight
