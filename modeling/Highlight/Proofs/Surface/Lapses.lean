import Highlight.Proofs.Surface.Settling

/-!
# Lapses of time

Time lapses for a depot as it does for a timeline on which nothing else happens: as long as a task
can go on, some task does, in whatever order, and otherwise the clock moves, past no time that a
task waits for.  So what a depot comes to in a lapse does not hang on how often the clock stops on
its way.
-/

namespace Highlight

namespace Depot

variable {d d' : Depot} {t : LoadTask} {time : Nat}

def setClock (d : Depot) (time : Nat) : Depot := { d with now := time }

/-- No task can go on at the present time. -/
def Still (d : Depot) : Prop := ∀ t ∈ d.registry.tasks, d.canRun t = false

/-- One step of a lapse. -/
inductive Lapse (d : Depot) : Depot → Prop
  | work (t : LoadTask) (ht : t ∈ d.registry.tasks) (hrun : d.canRun t = true) :
      Lapse d (d.advance t)
  | clock (time : Nat) (hstill : d.Still) (hle : d.now ≤ time)
      (hnext : ∀ t ∈ d.registry.tasks, ∀ due, d.wakeTime? t = some due → time ≤ due) :
      Lapse d (d.setClock time)

abbrev Lapses : Depot → Depot → Prop := Relation.ReflTransGen Lapse

theorem now_advance (d : Depot) (t : LoadTask) : (d.advance t).now = d.now := by
  unfold advance
  cases d.stages.get? t.load.id with
  | none => rfl
  | some stage => cases stage <;> rfl

theorem canRun_eq (d : Depot) (t : LoadTask) :
    d.canRun t =
      match d.wakeTime? t with
      | none => d.supply.isOpen t.load.language
      | some due => decide (due ≤ d.now) := by
  unfold canRun wakeTime?
  cases d.stages.get? t.load.id with
  | none => rfl
  | some stage => cases stage <;> rfl

theorem poll_eq (hids : (d.registry.tasks.map fun t => t.load.id).Nodup)
    (ht : t ∈ d.registry.tasks) : d.poll t.load.id = if d.canRun t then d.advance t else d := by
  have htask : d.task? t.load.id = some t :=
    Registry.find?_eq_some_of_nodup (fun t : LoadTask => t.load.id) hids ht
  simp only [poll, htask]

theorem Still.lt_wakeTime (h : d.Still) (ht : t ∈ d.registry.tasks) {due : Nat}
    (hwake : d.wakeTime? t = some due) : d.now < due := by
  have hrun := h t ht
  rw [canRun_eq, hwake] at hrun
  simpa using hrun

/-- The clock may move while all tasks wait for later times. -/
theorem Still.setClock (h : d.Still)
    (hlater : ∀ t ∈ d.registry.tasks, ∀ due, d.wakeTime? t = some due → time < due) :
    (d.setClock time).Still := by
  intro t ht
  have hrun := h t ht
  rw [canRun_eq] at hrun ⊢
  change (match d.wakeTime? t with
    | none => d.supply.isOpen t.load.language
    | some due => decide (due ≤ time)) = false
  cases hwake : d.wakeTime? t with
  | none => simpa [hwake] using hrun
  | some due => simpa using hlater t ht due hwake

theorem Lapses.now_le (h : d.Lapses d') : d.now ≤ d'.now := by
  induction h with
  | refl => exact Nat.le_refl _
  | tail _ hstep ih =>
      apply ih.trans
      cases hstep with
      | work t => exact Nat.le_of_eq (now_advance _ t).symm
      | clock time hstill hle hnext => exact hle

theorem Still.not_work (h : d.Still) (ht : t ∈ d.registry.tasks) : d.canRun t ≠ true := by
  simp [h t ht]

/-- A lapse may be cut at any time that passes no task by. -/
theorem Lapses.cut (h : d.Lapses d') (hstill : d.Still) (hle : d.now ≤ time)
    (hnext : ∀ t ∈ d.registry.tasks, ∀ due, d.wakeTime? t = some due → time ≤ due)
    (hend : time ≤ d'.now) : (d.setClock time).Lapses d' := by
  induction h using Relation.ReflTransGen.head_induction_on with
  | refl =>
      obtain rfl : time = d'.now := Nat.le_antisymm hend hle
      exact .refl
  | head hstep hrest ih =>
      cases hstep with
      | work t ht hrun => exact absurd hrun (hstill.not_work ht)
      | clock goal hstill' hle' hnext' =>
          rcases Nat.lt_trichotomy time goal with hlt | rfl | hgt
          · -- the clock has still to move from the cut to where it was going
            have hlater := hstill.setClock fun t ht due hwake =>
              Nat.lt_of_lt_of_le hlt (hnext' t ht due hwake)
            exact Relation.ReflTransGen.head
              (Lapse.clock goal hlater (Nat.le_of_lt hlt) hnext') hrest
          · exact hrest
          · -- the clock has stopped on its way to the cut
            apply ih
            · exact hstill.setClock fun t ht due hwake =>
                Nat.lt_of_lt_of_le hgt (hnext t ht due hwake)
            · exact Nat.le_of_lt hgt
            · exact hnext

theorem Lapses.eq_of_still (h : d.Lapses d') (hstill : d.Still) (hnow : d'.now = d.now) :
    d' = d := by
  induction h using Relation.ReflTransGen.head_induction_on with
  | refl => rfl
  | head hstep hrest ih =>
      cases hstep with
      | work t ht hrun => exact absurd hrun (hstill.not_work ht)
      | clock time hstill' hle hnext =>
          obtain rfl := Nat.le_antisymm hle (hnow ▸ Lapses.now_le hrest)
          exact ih hstill hnow

/-- Lets time pass, and goes on with all tasks that can go on. -/
def wait (d : Depot) (ms : Nat) : Depot :=
  let w : Timeline := { depot := d }
  (w.wait ms).settle.depot

end Depot

namespace Timeline

variable {w w' : Timeline}

theorem still_of_step?_none (h : w.step? = none) : w.depot.Still := (not_canRun_of_step?_none h).1

/-- While no task is bound to a surface, only the depot changes. -/
theorem Passes.lapses (hd : w.Distinct) (htasks : w.tasks = []) (h : w.Passes w') :
    w.depot.Lapses w'.depot ∧ w'.tasks = [] := by
  induction h with
  | refl => exact ⟨.refl, htasks⟩
  | @tail w₁ w₂ hpasses htick ih =>
      obtain ⟨hlapses, hnil⟩ := ih
      have hids := (hd.passes hpasses).loads
      cases htick with
      | step hstep =>
          rcases step?_cases hstep with ⟨t, ht, hrun, rfl⟩ | ⟨t, ht, -, -⟩
          · refine ⟨hlapses.tail ?_, hnil⟩
            simp only [pollLoad, Depot.poll_eq hids ht, if_pos hrun]
            exact .work t ht hrun
          · simp [hnil] at ht
      | clock time hstill hle hnext =>
          refine ⟨hlapses.tail (.clock time (still_of_step?_none hstill) hle ?_), hnil⟩
          intro t ht due hwake
          have hlt := (still_of_step?_none hstill).lt_wakeTime ht hwake
          apply hnext due
          refine List.mem_append_left _ (List.mem_filter.mpr ⟨?_, by simpa using hlt⟩)
          exact List.mem_filterMap.mpr ⟨t, ht, hwake⟩

theorem now_runWithin (deadline fuel : Nat) (w : Timeline) :
    (w.runWithin (fun _ => false) deadline fuel).now = deadline := by
  induction fuel generalizing w with
  | zero => rfl
  | succ fuel ih =>
      unfold runWithin
      simp only [Bool.false_eq_true, if_false]
      cases w.settle.wakeTimes.min? with
      | none => rfl
      | some time =>
          simp only
          split
          · exact ih _
          · rfl

end Timeline

namespace Depot

variable {d : Depot}

theorem wait_spec (hids : (d.registry.tasks.map fun t => t.load.id).Nodup) (ms : Nat) :
    d.Lapses (d.wait ms) ∧ (d.wait ms).Still ∧ (d.wait ms).now = d.now + ms := by
  let w : Timeline := { depot := d }
  have hdistinct : w.Distinct := ⟨hids, List.nodup_nil⟩
  have hwaited : w.Passes (w.wait ms) := hdistinct.passes_runUntil (fun _ => false) ms
  have hsettled : (w.wait ms).Passes (w.wait ms).settle := Timeline.passes_settleWithin _ _
  refine ⟨(Timeline.Passes.lapses hdistinct rfl (hwaited.trans hsettled)).1, ?_, ?_⟩
  · apply Timeline.still_of_step?_none
    exact (hdistinct.passes hwaited).step?_settleWithin (Nat.le_refl _)
  · exact (Timeline.now_settleWithin _ _).trans (Timeline.now_runWithin _ _ _)

end Depot

end Highlight
