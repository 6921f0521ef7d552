import Highlight.Surface.Scheduler
import Mathlib.Data.List.Nodup
import Mathlib.Data.List.TakeWhile

/-!
# Waiting on behalf of a surface

The tasks of a timeline are told apart by their numbers.  At any time only the attached surface can
be alive and have a follow-up that waits, and that follow-up is the one which the scheduler
remembers.  `Orderly` says so; attaching, detaching, following up and going on with a task all keep
it.
-/

namespace Highlight

namespace Timeline

variable {w : Timeline}

/-! ### Lifetimes -/

theorem isLive_lt {n : Nat} (h : w.isLive n = true) : n < w.surfaces.length := by
  unfold isLive Lifetime.isLiveAt at h
  by_cases hn : n < w.surfaces.length
  · exact hn
  · rw [List.getElem?_eq_none (Nat.le_of_not_lt hn)] at h
    simp at h

theorem isLive_addSurface (n : Nat) :
    w.addSurface.2.isLive n = true ↔ w.isLive n = true ∨ n = w.surfaces.length := by
  unfold isLive Lifetime.isLiveAt addSurface
  by_cases hn : n < w.surfaces.length
  · simp [List.getElem?_append_left hn, Nat.ne_of_lt hn]
  · by_cases heq : n = w.surfaces.length
    · subst heq
      simp [Lifetime.isLive]
    · have hlt : w.surfaces.length < n := by omega
      have hout : (w.surfaces ++ [Lifetime.live])[n]? = none :=
        List.getElem?_eq_none (by rw [List.length_append]; exact hlt)
      simp [hout, List.getElem?_eq_none (Nat.le_of_lt hlt), heq]

theorem isLive_tearDown (m n : Nat) :
    (w.tearDown m).isLive n = true ↔ w.isLive n = true ∧ n ≠ m := by
  unfold isLive Lifetime.isLiveAt tearDown Lifetime.tearDownAt
  by_cases hne : n = m
  · subst hne
    by_cases hn : n < w.surfaces.length <;> simp [hn, Lifetime.isLive]
  · simp [hne, Ne.symm hne]

/-! ### Tasks -/

theorem mem_of_task? {id : Nat} {t : SurfaceTask} (h : w.task? id = some t) :
    t ∈ w.tasks ∧ t.id = id :=
  ⟨List.mem_of_find?_eq_some h, by simpa using List.find?_some h⟩

theorem mem_spawn (n : Nat) (a : Awaited) (t : SurfaceTask) :
    t ∈ (w.spawn n a).2.tasks ↔ t ∈ w.tasks ∨ t = ⟨w.nextTask, n, a⟩ := by
  simp [spawn]

theorem mem_dropTask (id : Nat) (t : SurfaceTask) :
    t ∈ (w.dropTask id).tasks ↔ t ∈ w.tasks ∧ t.id ≠ id := by
  simp [dropTask]

/-- A task that is there after a change was there before, waiting for something else perhaps. -/
theorem mem_setAwaited {id : Nat} {a : Awaited} {t : SurfaceTask}
    (h : t ∈ (w.setAwaited id a).tasks) :
    (t ∈ w.tasks ∧ t.id ≠ id) ∨ ∃ u ∈ w.tasks, u.id = id ∧ t = { u with awaited := a } := by
  obtain ⟨u, hu, rfl⟩ := List.mem_map.mp h
  by_cases hid : u.id = id
  · exact Or.inr ⟨u, hu, hid, by simp [hid]⟩
  · exact Or.inl ⟨by simpa [hid] using hu, by simp [hid]⟩

theorem mem_setAwaited_self {id : Nat} (a : Awaited) {t : SurfaceTask} (ht : t ∈ w.tasks)
    (hid : t.id = id) : { t with awaited := a } ∈ (w.setAwaited id a).tasks :=
  List.mem_map.mpr ⟨t, ht, by simp [hid]⟩

theorem mem_setAwaited_of_ne {id : Nat} (a : Awaited) {t : SurfaceTask} (ht : t ∈ w.tasks)
    (hid : t.id ≠ id) : t ∈ (w.setAwaited id a).tasks :=
  List.mem_map.mpr ⟨t, ht, by simp [hid]⟩

theorem ids_setAwaited (id : Nat) (a : Awaited) :
    (w.setAwaited id a).tasks.map SurfaceTask.id = w.tasks.map SurfaceTask.id := by
  simp only [setAwaited, List.map_map]
  apply List.map_congr_left
  intro t _
  by_cases hid : t.id = id <;> simp [hid]

inductive Polled (w : Timeline) (id : Nat) : Timeline → Prop
  /-- There is no such task, or it cannot go on. -/
  | idle : Polled w id w
  | dropped (t : SurfaceTask) (ht : t ∈ w.tasks) (hid : t.id = id)
      (hdead : w.isLive t.surface = false) : Polled w id (w.dropTask id)
  | ended (t : SurfaceTask) (ht : t ∈ w.tasks) (hid : t.id = id) (hlive : w.isLive t.surface = true)
      (hcome : ∀ loads, t.awaited = .loads loads → ∀ l ∈ loads, w.registry.isFinished l = true)
      (hdue : ∀ due, t.awaited = .time due → due ≤ w.now) :
      Polled w id ((w.dropTask id).dispatch t.surface t.awaited.request)
  | advanced (t : SurfaceTask) (ht : t ∈ w.tasks) (hid : t.id = id)
      (hlive : w.isLive t.surface = true) (done rest : List Load)
      (hloads : t.awaited = .loads (done ++ rest))
      (hdone : ∀ l ∈ done, w.registry.isFinished l = true) :
      Polled w id (w.setAwaited id (.loads rest))

theorem polled (w : Timeline) (id : Nat) : Polled w id (w.pollTask id) := by
  unfold pollTask
  cases htask : w.task? id with
  | none => exact .idle
  | some t =>
      obtain ⟨ht, hid⟩ := mem_of_task? htask
      cases hlive : w.isLive t.surface with
      | false => simpa [hlive] using Polled.dropped t ht hid hlive
      | true =>
          cases ha : t.awaited with
          | time due =>
              by_cases hdue : due ≤ w.now
              · have hcome : ∀ loads, t.awaited = .loads loads →
                    ∀ l ∈ loads, w.registry.isFinished l = true := by simp [ha]
                have hpast : ∀ time, t.awaited = .time time → time ≤ w.now := by
                  simpa [ha] using hdue
                simpa [hlive, ha, hdue] using Polled.ended t ht hid hlive hcome hpast
              · simpa [hlive, ha, hdue] using Polled.idle
          | loads pending =>
              have hsplit :=
                List.takeWhile_append_dropWhile (p := w.registry.isFinished) (l := pending)
              have hdone : ∀ l ∈ pending.takeWhile w.registry.isFinished,
                  w.registry.isFinished l = true := fun l hl => List.mem_takeWhile_imp hl
              cases hrest : pending.dropWhile w.registry.isFinished with
              | nil =>
                  have hcome : ∀ loads, t.awaited = .loads loads →
                      ∀ l ∈ loads, w.registry.isFinished l = true := by
                    intro loads heq l hl
                    obtain rfl : pending = loads := by simpa [ha] using heq
                    rw [hrest, List.append_nil] at hsplit
                    rw [← hsplit] at hl
                    exact hdone l hl
                  have hpast : ∀ time, t.awaited = .time time → time ≤ w.now := by simp [ha]
                  simpa [hlive, ha, hrest] using Polled.ended t ht hid hlive hcome hpast
              | cons l rest =>
                  rw [hrest] at hsplit
                  have hadvanced := Polled.advanced t ht hid hlive _ (l :: rest)
                    (ha.trans (congrArg _ hsplit.symm)) hdone
                  simpa [hlive, ha, hrest] using hadvanced

theorem pollTask_depot (w : Timeline) (id : Nat) : (w.pollTask id).depot = w.depot := by
  have hp := w.polled id
  generalize w.pollTask id = w' at hp ⊢
  cases hp <;> rfl

/-! ### Numbers -/

/-- Tasks have numbers of their own, and wait on behalf of surfaces that there are. -/
structure Numbered (w : Timeline) : Prop where
  id_lt : ∀ t ∈ w.tasks, t.id < w.nextTask
  ids_nodup : (w.tasks.map SurfaceTask.id).Nodup
  surface_lt : ∀ t ∈ w.tasks, t.surface < w.surfaces.length

theorem Numbered.eq_of_id_eq (h : w.Numbered) {t u : SurfaceTask} (ht : t ∈ w.tasks)
    (hu : u ∈ w.tasks) (hid : t.id = u.id) : t = u :=
  List.inj_on_of_nodup_map h.ids_nodup ht hu hid

theorem Numbered.task?_eq (h : w.Numbered) {t : SurfaceTask} (ht : t ∈ w.tasks) :
    w.task? t.id = some t := by
  cases hf : w.task? t.id with
  | none =>
      have hne := List.find?_eq_none.mp hf t ht
      simp at hne
  | some u =>
      obtain ⟨hu, hid⟩ := mem_of_task? hf
      rw [h.eq_of_id_eq hu ht hid]

theorem task?_eq_none {id : Nat} (h : ∀ t ∈ w.tasks, t.id ≠ id) : w.task? id = none :=
  List.find?_eq_none.mpr fun t ht => by simpa using h t ht

theorem Numbered.addSurface (h : w.Numbered) : w.addSurface.2.Numbered := by
  refine ⟨h.id_lt, h.ids_nodup, ?_⟩
  intro t ht
  have hlt := h.surface_lt t ht
  simp only [Timeline.addSurface, List.length_append]
  omega

theorem Numbered.tearDown (h : w.Numbered) (n : Nat) : (w.tearDown n).Numbered := by
  refine ⟨h.id_lt, h.ids_nodup, ?_⟩
  intro t ht
  simpa [Timeline.tearDown, Lifetime.tearDownAt] using h.surface_lt t ht

theorem Numbered.spawn (h : w.Numbered) {n : Nat} (hn : w.isLive n = true) (a : Awaited) :
    (w.spawn n a).2.Numbered := by
  refine ⟨?_, ?_, ?_⟩
  · intro t ht
    rcases (mem_spawn n a t).mp ht with hold | rfl
    · exact Nat.lt_succ_of_lt (h.id_lt t hold)
    · exact Nat.lt_succ_self _
  · have hnew : w.nextTask ∉ w.tasks.map SurfaceTask.id := by
      intro hmem
      obtain ⟨t, ht, hid⟩ := List.mem_map.mp hmem
      exact absurd (h.id_lt t ht) (by omega)
    simp only [Timeline.spawn, List.map_append, List.map_cons, List.map_nil]
    exact List.nodup_append_comm.mp (List.nodup_cons.mpr ⟨hnew, h.ids_nodup⟩)
  · intro t ht
    rcases (mem_spawn n a t).mp ht with hold | rfl
    · exact h.surface_lt t hold
    · exact isLive_lt hn

theorem Numbered.dropTask (h : w.Numbered) (id : Nat) : (w.dropTask id).Numbered := by
  refine ⟨?_, ?_, ?_⟩
  · exact fun t ht => h.id_lt t ((mem_dropTask id t).mp ht).1
  · exact h.ids_nodup.sublist (List.filter_sublist.map SurfaceTask.id)
  · exact fun t ht => h.surface_lt t ((mem_dropTask id t).mp ht).1

theorem Numbered.setAwaited (h : w.Numbered) (id : Nat) (a : Awaited) :
    (w.setAwaited id a).Numbered := by
  refine ⟨?_, ?_, ?_⟩
  · intro t ht
    rcases mem_setAwaited ht with ⟨hold, -⟩ | ⟨u, hu, -, rfl⟩
    · exact h.id_lt t hold
    · exact h.id_lt u hu
  · rw [ids_setAwaited]
    exact h.ids_nodup
  · intro t ht
    rcases mem_setAwaited ht with ⟨hold, -⟩ | ⟨u, hu, -, rfl⟩
    · exact h.surface_lt t hold
    · exact h.surface_lt u hu

end Timeline

namespace Scheduler

/-- Only the attached surface can be alive and have a follow-up, and the scheduler remembers it. -/
structure Orderly (sch : Scheduler) (w : Timeline) : Prop where
  numbered : w.Numbered
  batch_lt : ∀ id, sch.batch? = some id → id < w.nextTask
  batch_surface : ∀ t ∈ w.tasks, sch.batch? = some t.id → sch.surface? = some t.surface
  waiter : ∀ t ∈ w.tasks, t.awaited.request = .grammarLoaded → w.isLive t.surface = true →
    sch.surface? = some t.surface ∧ sch.batch? = some t.id

variable {sch : Scheduler} {w w' : Timeline}

theorem Orderly.congr (h : sch.Orderly w) (hsurfaces : w'.surfaces = w.surfaces)
    (htasks : w'.tasks = w.tasks) (hnext : w'.nextTask = w.nextTask) : sch.Orderly w' := by
  obtain ⟨⟨hid, hnodup, hlt⟩, hbatch, hsurface, hwaiter⟩ := h
  refine ⟨⟨?_, ?_, ?_⟩, ?_, ?_, ?_⟩ <;>
    simp only [Timeline.isLive, hsurfaces, htasks, hnext] <;> assumption

theorem Orderly.addSurface (h : sch.Orderly w) : sch.Orderly w.addSurface.2 := by
  refine ⟨h.numbered.addSurface, h.batch_lt, h.batch_surface, ?_⟩
  intro t ht hloads hlive
  rcases (Timeline.isLive_addSurface t.surface).mp hlive with hold | hnew
  · exact h.waiter t ht hloads hold
  · exact absurd hnew (Nat.ne_of_lt (h.numbered.surface_lt t ht))

theorem Orderly.tearDown (h : sch.Orderly w) (n : Nat) : sch.Orderly (w.tearDown n) := by
  refine ⟨h.numbered.tearDown n, h.batch_lt, h.batch_surface, ?_⟩
  intro t ht hloads hlive
  exact h.waiter t ht hloads ((Timeline.isLive_tearDown n t.surface).mp hlive).1

/-- Once the attached surface is torn down, no follow-up has a living surface. -/
theorem Orderly.dead_of_detach (h : sch.Orderly w) {t : SurfaceTask} (ht : t ∈ w.tasks)
    (hloads : t.awaited.request = .grammarLoaded) :
    (sch.detach w).2.isLive t.surface = false := by
  rw [Bool.eq_false_iff]
  intro hlive
  unfold detach at hlive
  cases hs : sch.surface? with
  | none =>
      rw [hs] at hlive
      have hattached := (h.waiter t ht hloads hlive).1
      simp [hs] at hattached
  | some n =>
      rw [hs] at hlive
      obtain ⟨hold, hne⟩ := (Timeline.isLive_tearDown n t.surface).mp hlive
      have hattached := (h.waiter t ht hloads hold).1
      rw [hs] at hattached
      exact hne (Option.some.inj hattached).symm

theorem detach_tasks (sch : Scheduler) (w : Timeline) : (sch.detach w).2.tasks = w.tasks ∧
    (sch.detach w).2.nextTask = w.nextTask ∧ (sch.detach w).2.dispatched = w.dispatched := by
  unfold detach
  cases sch.surface? <;> exact ⟨rfl, rfl, rfl⟩

/-- Whatever surface is attached next, it has no follow-up yet. -/
theorem Orderly.attach (h : sch.Orderly w) (n? : Option Nat) :
    ({ sch with surface? := n?, batch? := none } : Scheduler).Orderly (sch.detach w).2 := by
  have hnumbered : (sch.detach w).2.Numbered := by
    unfold detach
    cases sch.surface? with
    | none => exact h.numbered
    | some n => exact h.numbered.tearDown n
  refine ⟨hnumbered, by simp, by simp, ?_⟩
  intro t ht hloads hlive
  rw [(sch.detach_tasks w).1] at ht
  rw [h.dead_of_detach ht hloads] at hlive
  exact absurd hlive Bool.false_ne_true

theorem scheduleDeferred_liveSurface? (sch : Scheduler) (w : Timeline) :
    sch.liveSurface? (sch.scheduleDeferred w).2 = sch.liveSurface? w := by
  unfold scheduleDeferred
  cases hlive : sch.liveSurface? w <;> exact hlive

theorem Orderly.scheduleDeferred (h : sch.Orderly w) : sch.Orderly (sch.scheduleDeferred w).2 := by
  unfold Scheduler.scheduleDeferred
  cases hlive : sch.liveSurface? w with
  | none => exact h
  | some n =>
      obtain ⟨hs, hn⟩ := Option.filter_eq_some_iff.mp hlive
      refine ⟨h.numbered.spawn hn _, ?_, ?_, ?_⟩
      · exact fun id hid => Nat.lt_succ_of_lt (h.batch_lt id hid)
      · intro t ht hid
        rcases (Timeline.mem_spawn n _ t).mp ht with hold | rfl
        · exact h.batch_surface t hold hid
        · exact hs
      · intro t ht hloads htlive
        rcases (Timeline.mem_spawn n _ t).mp ht with hold | rfl
        · exact h.waiter t hold hloads htlive
        · simp [Awaited.request] at hloads

theorem Orderly.setAwaited (h : sch.Orderly w) {t : SurfaceTask} (ht : t ∈ w.tasks)
    (hreq : t.awaited.request = .grammarLoaded) (loads : List Load) :
    sch.Orderly (w.setAwaited t.id (.loads loads)) := by
  refine ⟨h.numbered.setAwaited _ _, h.batch_lt, ?_, ?_⟩
  · intro u hu hbatch
    rcases Timeline.mem_setAwaited hu with ⟨hold, -⟩ | ⟨v, hv, -, rfl⟩
    · exact h.batch_surface u hold hbatch
    · exact h.batch_surface v hv hbatch
  · intro u hu hureq hulive
    rcases Timeline.mem_setAwaited hu with ⟨hold, -⟩ | ⟨v, hv, hvid, rfl⟩
    · exact h.waiter u hold hureq hulive
    · have heq := h.numbered.eq_of_id_eq hv ht hvid
      exact h.waiter v hv (heq ▸ hreq) hulive

/-! ### Following up -/

inductive Followed (sch : Scheduler) (w : Timeline) (loads : List Load) :
    Scheduler × Timeline → Prop
  | nothing (h : loads = [] ∨ sch.liveSurface? w = none) : Followed sch w loads (sch, w)
  | joined (t : SurfaceTask) (pending : List Load) (ht : t ∈ w.tasks)
      (hbatch : sch.batch? = some t.id) (hpending : t.awaited = .loads pending)
      (hlive : sch.liveSurface? w ≠ none) (hloads : loads ≠ []) :
      Followed sch w loads (sch, w.setAwaited t.id (.loads (pending ++ loads)))
  | opened (n : Nat) (hlive : sch.liveSurface? w = some n) (hloads : loads ≠ [])
      (hclosed : ∀ t ∈ w.tasks, sch.batch? = some t.id → t.awaited.request ≠ .grammarLoaded) :
      Followed sch w loads
        ({ sch with batch? := some w.nextTask }, (w.spawn n (.loads loads)).2)

theorem Orderly.openBatch?_eq_none (h : sch.Orderly w) (hnone : sch.openBatch? w = none)
    {t : SurfaceTask} (ht : t ∈ w.tasks) (hbatch : sch.batch? = some t.id) :
    t.awaited.request ≠ .grammarLoaded := by
  intro hloads
  unfold openBatch? at hnone
  rw [hbatch] at hnone
  simp only [h.numbered.task?_eq ht] at hnone
  obtain ⟨id, n, a⟩ := t
  cases a with
  | time due => simp [Awaited.request] at hloads
  | loads pending => simp at hnone

theorem Orderly.followed (h : sch.Orderly w) (loads : List Load) :
    Followed sch w loads (sch.followUp w loads) := by
  unfold followUp
  cases hempty : loads.isEmpty with
  | true => exact .nothing (Or.inl (by simpa using hempty))
  | false =>
      have hloads : loads ≠ [] := by
        rintro rfl
        simp at hempty
      cases hlive : sch.liveSurface? w with
      | none => exact .nothing (Or.inr hlive)
      | some n =>
          cases hopen : sch.openBatch? w with
          | none =>
              exact .opened n hlive hloads fun t ht hb => h.openBatch?_eq_none hopen ht hb
          | some batch =>
              obtain ⟨id, pending⟩ := batch
              unfold openBatch? at hopen
              cases hb : sch.batch? with
              | none => simp [hb] at hopen
              | some b =>
                  cases htask : w.task? b with
                  | none => simp [hb, htask] at hopen
                  | some t =>
                      obtain ⟨ht, hid⟩ := Timeline.mem_of_task? htask
                      obtain ⟨tid, n', a⟩ := t
                      cases a with
                      | time due => simp [hb, htask] at hopen
                      | loads q =>
                          obtain ⟨rfl, rfl⟩ : b = id ∧ q = pending := by
                            simpa [hb, htask] using hopen
                          obtain rfl : tid = b := hid
                          exact .joined ⟨tid, n', .loads q⟩ q ht hb rfl (by simp [hlive]) hloads

theorem followUp_liveSurface? (sch : Scheduler) (w : Timeline) (loads : List Load) :
    (sch.followUp w loads).1.liveSurface? (sch.followUp w loads).2 = sch.liveSurface? w := by
  unfold followUp
  cases loads.isEmpty with
  | true => rfl
  | false =>
      cases hlive : sch.liveSurface? w with
      | none => exact hlive
      | some n => cases sch.openBatch? w <;> exact hlive

/-- Loads that are handed over for a living surface have somebody who waits for them. -/
theorem Orderly.exists_waiter (h : sch.Orderly w) {n : Nat} (hlive : sch.liveSurface? w = some n)
    {loads : List Load} (hloads : loads ≠ []) :
    ∃ t ∈ (sch.followUp w loads).2.tasks, t.surface = n := by
  have hf := h.followed loads
  generalize sch.followUp w loads = result at hf ⊢
  cases hf with
  | nothing hnone => simp [hloads, hlive] at hnone
  | joined t pending ht hbatch hpending _ _ =>
      have hs := h.batch_surface t ht hbatch
      rw [(Option.filter_eq_some_iff.mp hlive).1] at hs
      exact ⟨_, Timeline.mem_setAwaited_self _ ht rfl, (Option.some.inj hs).symm⟩
  | opened m hm _ _ =>
      rw [hlive] at hm
      exact ⟨_, (Timeline.mem_spawn m _ _).mpr (Or.inr rfl), (Option.some.inj hm).symm⟩

theorem Orderly.followUp (h : sch.Orderly w) (loads : List Load) :
    (sch.followUp w loads).1.Orderly (sch.followUp w loads).2 := by
  have hf := h.followed loads
  generalize sch.followUp w loads = result at hf ⊢
  cases hf with
  | nothing => exact h
  | joined t pending ht hbatch hpending hlive hloads =>
      have hreq : t.awaited.request = .grammarLoaded := by
        rw [hpending]
        rfl
      exact h.setAwaited ht hreq _
  | opened n hlive hloads hclosed =>
      obtain ⟨hs, hn⟩ := Option.filter_eq_some_iff.mp hlive
      refine ⟨h.numbered.spawn hn _, ?_, ?_, ?_⟩
      · rintro _ ⟨⟩
        exact Nat.lt_succ_self _
      · intro t ht hid
        rcases (Timeline.mem_spawn n _ t).mp ht with hold | rfl
        · have hnew : w.nextTask = t.id := Option.some.inj hid
          exact absurd (h.numbered.id_lt t hold) (by omega)
        · exact hs
      · intro t ht hreq htlive
        rcases (Timeline.mem_spawn n _ t).mp ht with hold | rfl
        · -- an old follow-up of a living surface would have been open
          exact absurd hreq (hclosed t hold (h.waiter t hold hreq htlive).2)
        · exact ⟨hs, rfl⟩

/-! ### Going on with a task -/

theorem Orderly.dropTask (h : sch.Orderly w) (id : Nat) : sch.Orderly (w.dropTask id) := by
  refine ⟨h.numbered.dropTask id, h.batch_lt, ?_, ?_⟩
  · exact fun t ht => h.batch_surface t ((Timeline.mem_dropTask id t).mp ht).1
  · exact fun t ht => h.waiter t ((Timeline.mem_dropTask id t).mp ht).1

theorem Orderly.pollTask (h : sch.Orderly w) (id : Nat) : sch.Orderly (w.pollTask id) := by
  have hp := w.polled id
  generalize w.pollTask id = w' at hp ⊢
  cases hp with
  | idle => exact h
  | dropped t ht hid hdead => exact h.dropTask id
  | ended t ht hid hlive hcome => exact (h.dropTask id).congr rfl rfl rfl
  | advanced t ht hid hlive done rest hloads hdone =>
      have hreq : t.awaited.request = .grammarLoaded := by
        rw [hloads]
        rfl
      rw [← hid]
      exact h.setAwaited ht hreq rest

theorem Orderly.length_waiters_le (h : sch.Orderly w) {n : Nat} (hlive : w.isLive n = true) :
    (w.tasks.filter fun t => t.awaited.request == .grammarLoaded && t.surface == n).length ≤ 1 := by
  have hall : ∀ t ∈ w.tasks.filter fun t => t.awaited.request == .grammarLoaded && t.surface == n,
      t ∈ w.tasks ∧ sch.batch? = some t.id := by
    intro t ht
    obtain ⟨hmem, hreq, rfl⟩ :
      t ∈ w.tasks ∧ t.awaited.request = .grammarLoaded ∧ t.surface = n := by
      simpa using ht
    exact ⟨hmem, (h.waiter t hmem hreq hlive).2⟩
  have hnodup := h.numbered.ids_nodup.of_map.filter
    fun t => t.awaited.request == .grammarLoaded && t.surface == n
  generalize w.tasks.filter _ = waiters at hall hnodup ⊢
  match waiters with
  | [] => simp
  | [t] => simp
  | t :: u :: rest =>
      -- the scheduler remembers one task only
      obtain ⟨ht, hbt⟩ := hall t List.mem_cons_self
      obtain ⟨hu, hbu⟩ := hall u (List.mem_cons_of_mem _ List.mem_cons_self)
      have heq := h.numbered.eq_of_id_eq ht hu (Option.some.inj (hbt.symm.trans hbu))
      simp [heq] at hnodup

end Scheduler

end Highlight
