import Highlight.Proofs.Surface.Waiters

/-!
# What leaves follow-ups alone

Surfaces come and go, loads go on, and deferred passes are scheduled, without any follow-up being
started, changed or ended.
-/

namespace Highlight

variable {w w' w'' : Timeline}

namespace Timeline

/-- Nothing has happened to follow-ups, though surfaces may be new or torn down, and loads may be
over. -/
structure Still (w w' : Timeline) : Prop where
  waiters : ∀ t, t.awaited.request = .grammarLoaded → (t ∈ w'.tasks ↔ t ∈ w.tasks)
  nextTask_le : w.nextTask ≤ w'.nextTask
  surfaces_le : w.surfaces.length ≤ w'.surfaces.length
  live : ∀ n, n < w.surfaces.length → w'.isLive n = true → w.isLive n = true
  finished : ∀ x, w.registry.isFinished x = true → w'.registry.isFinished x = true
  nextId_le : w.registry.nextId ≤ w'.registry.nextId
  dispatched_eq : w'.dispatched = w.dispatched

theorem Still.refl (w : Timeline) : w.Still w :=
  ⟨fun _ _ => Iff.rfl, Nat.le_refl _, Nat.le_refl _, fun _ _ h => h, fun _ h => h, Nat.le_refl _,
    rfl⟩

theorem Still.trans (h : w.Still w') (h' : w'.Still w'') : w.Still w'' where
  waiters := fun t ht => (h'.waiters t ht).trans (h.waiters t ht)
  nextTask_le := Nat.le_trans h.nextTask_le h'.nextTask_le
  surfaces_le := Nat.le_trans h.surfaces_le h'.surfaces_le
  live := fun n hn hlive => h.live n hn (h'.live n (Nat.lt_of_lt_of_le hn h.surfaces_le) hlive)
  finished := fun x hx => h'.finished x (h.finished x hx)
  nextId_le := Nat.le_trans h.nextId_le h'.nextId_le
  dispatched_eq := h'.dispatched_eq.trans h.dispatched_eq

theorem still_of_registry (hsurfaces : w'.surfaces = w.surfaces) (htasks : w'.tasks = w.tasks)
    (hnext : w'.nextTask = w.nextTask) (hdispatched : w'.dispatched = w.dispatched)
    (hfinished : ∀ x, w.registry.isFinished x = true → w'.registry.isFinished x = true)
    (hids : w.registry.nextId ≤ w'.registry.nextId) : w.Still w' where
  waiters := by simp [htasks]
  nextTask_le := Nat.le_of_eq hnext.symm
  surfaces_le := Nat.le_of_eq (by rw [hsurfaces])
  live := by
    intro n _ hlive
    rwa [isLive, hsurfaces] at hlive
  finished := hfinished
  nextId_le := hids
  dispatched_eq := hdispatched

theorem still_addSurface (w : Timeline) : w.Still w.addSurface.2 where
  waiters := fun _ _ => Iff.rfl
  nextTask_le := Nat.le_refl _
  surfaces_le := by simp [addSurface]
  live := by
    intro n hn hlive
    rcases (isLive_addSurface n).mp hlive with hold | rfl
    · exact hold
    · exact absurd hn (Nat.lt_irrefl _)
  finished := fun _ h => h
  nextId_le := Nat.le_refl _
  dispatched_eq := rfl

theorem still_tearDown (w : Timeline) (n : Nat) : w.Still (w.tearDown n) where
  waiters := fun _ _ => Iff.rfl
  nextTask_le := Nat.le_refl _
  surfaces_le := by simp [tearDown, Lifetime.tearDownAt]
  live := fun m _ hlive => ((isLive_tearDown n m).mp hlive).1
  finished := fun _ h => h
  nextId_le := Nat.le_refl _
  dispatched_eq := rfl

end Timeline

namespace Scheduler

theorem still_detach (sch : Scheduler) (w : Timeline) : w.Still (sch.detach w).2 := by
  unfold detach
  cases sch.surface? with
  | none => exact .refl w
  | some n => exact w.still_tearDown n

theorem still_scheduleDeferred (sch : Scheduler) (w : Timeline) :
    w.Still (sch.scheduleDeferred w).2 := by
  unfold scheduleDeferred
  cases sch.liveSurface? w with
  | none => exact .refl w
  | some n =>
      refine ⟨?_, Nat.le_succ _, Nat.le_refl _, fun _ _ h => h, fun _ h => h, Nat.le_refl _, rfl⟩
      intro t hreq
      rw [Timeline.mem_spawn]
      constructor
      · rintro (ht | rfl)
        · exact ht
        · simp [Awaited.request] at hreq
      · exact Or.inl

end Scheduler

end Highlight
