import Highlight.Proofs.Registry.Calls
import Highlight.Proofs.Surface.Waiters
import Highlight.Scenario.Loads
import Mathlib.Algebra.Order.BigOperators.Group.List
import Mathlib.Algebra.Order.Ring.Nat

/-!
# Settling

Every step of a task leaves less work, so a timeline settles within as many steps as there is work,
and no task can go on then.  The clock moves only from one settled state to the next, and no further
than to the next awaited time: time passes by ticks.  So it is punctual: no loader is called too
late.  `InTime` says so of a timeline with its whole past, and every step of a scenario about loads
keeps it.
-/

namespace Highlight

theorem sum_map_filter_lt {α : Type} (f : α → Nat) (p : α → Bool) {xs : List α} {x : α}
    (hx : x ∈ xs) (hp : p x = false) (hf : 0 < f x) :
    ((xs.filter p).map f).sum < (xs.map f).sum := by
  obtain ⟨front, back, rfl⟩ := List.append_of_mem hx
  have hle : ∀ ys : List α, ((ys.filter p).map f).sum ≤ (ys.map f).sum := fun ys =>
    (List.filter_sublist.map f).sum_le_sum fun n _ => Nat.zero_le n
  have hfront := hle front
  have hback := hle back
  simp only [List.filter_append, List.filter_cons, hp, List.map_append, List.map_cons,
    List.sum_append, List.sum_cons, Bool.false_eq_true, if_false]
  omega

/-- The steps that the task of a load has still to take in a stage. -/
def Stage.left : Stage → Nat
  | atGate _ => 2
  | working _ _ => 1

namespace Depot

variable {d d' : Depot} {t : LoadTask} {load : Nat} {result? : Option LoadResult}

theorem stagesLeft_eq (d : Depot) (t : LoadTask) :
    d.stagesLeft t = ((d.stages.get? t.load.id).map Stage.left).getD 3 := by
  unfold stagesLeft
  cases d.stages.get? t.load.id with
  | none => rfl
  | some stage => cases stage <;> rfl

theorem stagesLeft_pos (d : Depot) (t : LoadTask) : 0 < d.stagesLeft t := by
  rw [stagesLeft_eq]
  cases d.stages.get? t.load.id with
  | none => simp
  | some stage => cases stage <;> simp [Stage.left]

theorem work_eq_sum (d : Depot) : d.work = (d.registry.tasks.map d.stagesLeft).sum := by
  rw [work, List.sum, List.foldr_map]

theorem work_lt_of_insert {stage : Stage} (ht : t ∈ d.registry.tasks)
    (htasks : d'.registry.tasks = d.registry.tasks)
    (hstages : d'.stages = d.stages.insert t.load.id stage) (hlt : stage.left < d.stagesLeft t) :
    d'.work < d.work := by
  have hself : ∀ u : LoadTask, u.load.id = t.load.id → d'.stagesLeft u < d.stagesLeft u := by
    intro u hid
    rw [stagesLeft_eq, hstages, hid, Table.get?_insert_self]
    rw [stagesLeft_eq] at hlt
    simpa [stagesLeft_eq, hid] using hlt
  have hle : ∀ u ∈ d.registry.tasks, d'.stagesLeft u ≤ d.stagesLeft u := by
    intro u _
    by_cases hid : u.load.id = t.load.id
    · exact Nat.le_of_lt (hself u hid)
    · rw [stagesLeft_eq, stagesLeft_eq, hstages, Table.get?_insert_of_ne _ _ hid]
  rw [work_eq_sum, work_eq_sum, htasks]
  exact List.sum_lt_sum _ _ hle ⟨t, ht, hself t rfl⟩

theorem Polled.tasks_sublist (h : Polled d load result? d') :
    d'.registry.tasks.Sublist d.registry.tasks := by
  cases h with
  | reported call doneAt result hstage =>
      simp only [Registry.tasks_finish]
      exact List.filter_sublist
  | _ => exact List.Sublist.refl _

/-- A task that can go on has less to do afterwards. -/
theorem Polled.work_lt (h : Polled d t.load.id result? d')
    (hids : (d.registry.tasks.map fun t => t.load.id).Nodup) (ht : t ∈ d.registry.tasks)
    (hrun : d.canRun t = true) : d'.work < d.work := by
  have htask : d.task? t.load.id = some t :=
    Registry.find?_eq_some_of_nodup (fun t : LoadTask => t.load.id) hids ht
  cases h with
  | idle hidle => exact absurd (hrun.symm.trans (hidle t htask)) (by simp)
  | called u hu hid hstage hdue =>
      exact work_lt_of_insert ht rfl rfl (by simp [stagesLeft_eq, hstage, Stage.left])
  | passed call doneAt hstage =>
      exact work_lt_of_insert ht rfl rfl (by simp [stagesLeft_eq, hstage, Stage.left])
  | reported call doneAt result hstage =>
      rw [work_eq_sum, work_eq_sum]
      simp only [Registry.tasks_finish]
      exact sum_map_filter_lt d.stagesLeft (·.load.id != t.load.id) ht (by simp)
        (d.stagesLeft_pos t)

/-- Events on a punctual clock lead from one state of a depot to another. -/
def Punctually (d d' : Depot) : Prop := ∃ events, d.isPunctual events = true ∧ d' = d.after events

theorem after_append (d : Depot) (es fs : List DepotEvent) :
    d.after (es ++ fs) = (d.after es).after fs := by
  induction es generalizing d with
  | nil => rfl
  | cons e es ih => exact ih (d.occur e)

theorem isPunctual_append (d : Depot) (es fs : List DepotEvent) :
    d.isPunctual (es ++ fs) = (d.isPunctual es && (d.after es).isPunctual fs) := by
  induction es generalizing d with
  | nil => rfl
  | cons e es ih => simp [isPunctual, after, ih, Bool.and_assoc]

theorem Punctually.refl (d : Depot) : d.Punctually d := ⟨[], rfl, rfl⟩

theorem Punctually.trans {d'' : Depot} (h : d.Punctually d') (h' : d'.Punctually d'') :
    d.Punctually d'' := by
  obtain ⟨es, hes, rfl⟩ := h
  obtain ⟨fs, hfs, rfl⟩ := h'
  exact ⟨es ++ fs, by simp [isPunctual_append, hes, hfs], (d.after_append es fs).symm⟩

theorem punctually_occur {e : DepotEvent} (h : d.permits e = true) : d.Punctually (d.occur e) :=
  ⟨[e], by simp [isPunctual, h], rfl⟩

end Depot

namespace Timeline

variable {w w' : Timeline} {t : SurfaceTask}

/-! ### Work -/

theorem work_eq_sum (w : Timeline) :
    w.work = w.depot.work + (w.tasks.map fun t => Awaited.work t.awaited).sum := by
  rw [work, List.sum, List.foldr_map]

theorem awaited_work_pos (a : Awaited) : 0 < Awaited.work a := by
  cases a with
  | time due => exact Nat.one_pos
  | loads pending => exact Nat.succ_pos _

theorem work_dropTask_lt (ht : t ∈ w.tasks) : (w.dropTask t.id).work < w.work := by
  rw [work_eq_sum, work_eq_sum]
  have hlt := sum_map_filter_lt (fun t : SurfaceTask => Awaited.work t.awaited) (·.id != t.id) ht
    (by simp) (awaited_work_pos t.awaited)
  simpa [dropTask] using hlt

theorem work_setAwaited_lt (hids : (w.tasks.map SurfaceTask.id).Nodup) (ht : t ∈ w.tasks)
    {a : Awaited} (hlt : Awaited.work a < Awaited.work t.awaited) :
    (w.setAwaited t.id a).work < w.work := by
  have hself : ∀ u ∈ w.tasks, u.id = t.id → u = t := fun u hu hid =>
    List.inj_on_of_nodup_map hids hu ht hid
  rw [work_eq_sum, work_eq_sum]
  simp only [setAwaited, List.map_map, Nat.add_lt_add_iff_left]
  refine List.sum_lt_sum _ _ ?_ ⟨t, ht, by simpa using hlt⟩
  intro u hu
  by_cases hid : u.id = t.id
  · rw [hself u hu hid]
    simpa using Nat.le_of_lt hlt
  · simp [hid]

/-- A task that can go on waits for less afterwards, or is over. -/
theorem work_pollTask_lt (hids : (w.tasks.map SurfaceTask.id).Nodup) (ht : t ∈ w.tasks)
    (hrun : w.canRun t = true) : (w.pollTask t.id).work < w.work := by
  have htask : w.task? t.id = some t := Registry.find?_eq_some_of_nodup SurfaceTask.id hids ht
  have hdrop := work_dropTask_lt ht
  unfold pollTask
  simp only [htask]
  cases hlive : w.isLive t.surface with
  | false => exact hdrop
  | true =>
      have hcome : w.hasCome t.awaited = true := by simpa [canRun, hlive] using hrun
      simp only [Bool.not_true, Bool.false_eq_true, if_false]
      cases ha : t.awaited with
      | time due =>
          have hdue : due ≤ w.now := by simpa [hasCome, ha] using hcome
          simp only [if_pos hdue]
          exact hdrop
      | loads pending =>
          cases hrest : pending.dropWhile w.registry.isFinished with
          | nil =>
              simp only [hrest]
              exact hdrop
          | cons l rest =>
              simp only [hrest]
              -- the load that is waited for first is over
              have hshort : (l :: rest).length < pending.length := by
                cases pending with
                | nil => simp at hrest
                | cons m pending =>
                    have hm : w.registry.isFinished m = true := by simpa [hasCome, ha] using hcome
                    rw [List.dropWhile_cons, if_pos hm] at hrest
                    have hle :=
                      (List.dropWhile_sublist w.registry.isFinished (l := pending)).length_le
                    rw [hrest] at hle
                    exact Nat.lt_succ_of_le hle
              refine work_setAwaited_lt hids ht ?_
              simpa [Awaited.work, ha] using hshort

/-! ### Steps -/

structure Distinct (w : Timeline) : Prop where
  loads : (w.registry.tasks.map fun t => t.load.id).Nodup
  tasks : (w.tasks.map SurfaceTask.id).Nodup

theorem step?_cases (h : w.step? = some w') :
    (∃ t ∈ w.registry.tasks, w.depot.canRun t = true ∧ w' = w.pollLoad t.load.id) ∨
      ∃ t ∈ w.tasks, w.canRun t = true ∧ w' = w.pollTask t.id := by
  unfold step? at h
  cases hr : w.depot.runnable? with
  | some t =>
      obtain rfl : w.pollLoad t.load.id = w' := by simpa [hr] using h
      exact Or.inl ⟨t, List.mem_of_find?_eq_some hr, List.find?_some hr, rfl⟩
  | none =>
      rw [hr] at h
      obtain ⟨t, ht, rfl⟩ := Option.map_eq_some_iff.mp h
      exact Or.inr ⟨t, List.mem_of_find?_eq_some ht, List.find?_some ht, rfl⟩

theorem not_canRun_of_step?_none (h : w.step? = none) :
    (∀ t ∈ w.registry.tasks, w.depot.canRun t = false) ∧ ∀ t ∈ w.tasks, w.canRun t = false := by
  unfold step? at h
  cases hr : w.depot.runnable? with
  | some t => simp [hr] at h
  | none =>
      rw [hr] at h
      have hloads := List.find?_eq_none.mp hr
      have htasks := List.find?_eq_none.mp (Option.map_eq_none_iff.mp h)
      exact ⟨fun t ht => by simpa using hloads t ht, fun t ht => by simpa using htasks t ht⟩

theorem now_step? (h : w.step? = some w') : w'.now = w.now := by
  rcases step?_cases h with ⟨t, -, -, rfl⟩ | ⟨t, -, -, rfl⟩
  · exact (w.depot.polled t.load.id).now_eq
  · exact congrArg Depot.now (w.pollTask_depot t.id)

theorem ids_pollTask_sublist (w : Timeline) (id : Nat) :
    ((w.pollTask id).tasks.map SurfaceTask.id).Sublist (w.tasks.map SurfaceTask.id) := by
  have hdrop : ((w.dropTask id).tasks.map SurfaceTask.id).Sublist (w.tasks.map SurfaceTask.id) :=
    List.filter_sublist.map _
  have h := w.polled id
  generalize w.pollTask id = w' at h
  cases h with
  | idle => exact List.Sublist.refl _
  | dropped t ht hid hdead => exact hdrop
  | ended t ht hid hlive hcome => exact hdrop
  | advanced t ht hid hlive done rest hloads hdone =>
      rw [ids_setAwaited]

theorem ids_step? (h : w.step? = some w') :
    (w'.registry.tasks.map fun t => t.load.id).Sublist (w.registry.tasks.map fun t => t.load.id) ∧
      (w'.tasks.map SurfaceTask.id).Sublist (w.tasks.map SurfaceTask.id) := by
  rcases step?_cases h with ⟨t, -, -, rfl⟩ | ⟨t, -, -, rfl⟩
  · exact ⟨(w.depot.polled t.load.id).tasks_sublist.map _, List.Sublist.refl _⟩
  · refine ⟨?_, w.ids_pollTask_sublist t.id⟩
    rw [registry, pollTask_depot]
    exact List.Sublist.refl _

theorem Distinct.step? (hd : w.Distinct) (h : w.step? = some w') :
    w'.Distinct ∧ w'.work < w.work := by
  obtain ⟨hloads, htasks⟩ := ids_step? h
  refine ⟨⟨hloads.nodup hd.loads, htasks.nodup hd.tasks⟩, ?_⟩
  rcases step?_cases h with ⟨t, ht, hrun, rfl⟩ | ⟨t, ht, hrun, rfl⟩
  · exact Nat.add_lt_add_right ((w.depot.polled t.load.id).work_lt hd.loads ht hrun) _
  · exact work_pollTask_lt hd.tasks ht hrun

/-! ### Settled timelines -/

theorem now_settleWithin (fuel : Nat) (w : Timeline) : (w.settleWithin fuel).now = w.now := by
  induction fuel generalizing w with
  | zero => rfl
  | succ fuel ih =>
      unfold settleWithin
      cases h : w.step? with
      | none => rfl
      | some w' => exact (ih w').trans (now_step? h)

theorem Distinct.settleWithin (hd : w.Distinct) (fuel : Nat) :
    (w.settleWithin fuel).Distinct ∧ (w.settleWithin fuel).work ≤ w.work := by
  induction fuel generalizing w with
  | zero => exact ⟨hd, Nat.le_refl _⟩
  | succ fuel ih =>
      unfold Timeline.settleWithin
      cases h : w.step? with
      | none => exact ⟨hd, Nat.le_refl _⟩
      | some w' =>
          obtain ⟨hd', hlt⟩ := hd.step? h
          obtain ⟨hdistinct, hle⟩ := ih hd'
          exact ⟨hdistinct, Nat.le_trans hle (Nat.le_of_lt hlt)⟩

/-- Within as many steps as there is work, no task can go on any more. -/
theorem Distinct.step?_settleWithin (hd : w.Distinct) {fuel : Nat} (hfuel : w.work ≤ fuel) :
    (w.settleWithin fuel).step? = none := by
  induction fuel generalizing w with
  | zero =>
      cases h : w.step? with
      | none => exact h
      | some w' =>
          have hlt := (hd.step? h).2
          omega
  | succ fuel ih =>
      unfold Timeline.settleWithin
      cases h : w.step? with
      | none => exact h
      | some w' =>
          obtain ⟨hd', hlt⟩ := hd.step? h
          exact ih hd' (by omega)

/-- A timeline that is not settled has less work when it is. -/
theorem Distinct.work_settle_lt (hd : w.Distinct) (h : w.step? ≠ none) :
    w.settle.work < w.work := by
  obtain ⟨w', hstep⟩ := Option.ne_none_iff_exists'.mp h
  obtain ⟨hd', hlt⟩ := hd.step? hstep
  obtain ⟨fuel, hfuel⟩ : ∃ fuel, w.work = fuel + 1 := ⟨w.work - 1, by omega⟩
  have hsettle : w.settle = w'.settleWithin fuel := by
    rw [settle, hfuel]
    simp only [Timeline.settleWithin, hstep]
  rw [hsettle]
  exact Nat.lt_of_le_of_lt (hd'.settleWithin fuel).2 hlt

theorem lt_of_mem_wakeTimes {time : Nat} (h : time ∈ w.wakeTimes) : w.now < time := by
  unfold wakeTimes Depot.wakeTimes at h
  rcases List.mem_append.mp h with h | h
  · exact of_decide_eq_true (List.mem_filter.mp h).2
  · obtain ⟨t, -, ht⟩ := List.mem_filterMap.mp h
    cases ha : t.awaited with
    | time due =>
        obtain ⟨hlt, rfl⟩ : w.now < due ∧ due = time := by simpa [ha] using ht
        exact hlt
    | loads pending => simp [ha] at ht

/-- In a settled timeline, a call that is still to come is awaited. -/
theorem callAt_mem_wakeTimes (h : w.step? = none) {t : LoadTask} (ht : t ∈ w.registry.tasks)
    (hstage : w.depot.stages.get? t.load.id = none) : t.callAt ∈ w.wakeTimes := by
  have hrun := (not_canRun_of_step?_none h).1 t ht
  have hlater : w.depot.now < t.callAt := by simpa [Depot.canRun, hstage] using hrun
  have hwake : w.depot.wakeTime? t = some t.callAt := by simp [Depot.wakeTime?, hstage]
  refine List.mem_append_left _ (List.mem_filter.mpr ⟨?_, by simpa using hlater⟩)
  exact List.mem_filterMap.mpr ⟨t, ht, hwake⟩

/-- When an awaited time has come, some task can go on. -/
theorem step?_setClock_ne_none {time : Nat} (h : time ∈ w.wakeTimes) :
    (w.setClock time).step? ≠ none := by
  intro hnone
  obtain ⟨hloads, htasks⟩ := not_canRun_of_step?_none hnone
  unfold wakeTimes Depot.wakeTimes at h
  rcases List.mem_append.mp h with h | h
  · obtain ⟨t, ht, hwake⟩ := List.mem_filterMap.mp (List.mem_filter.mp h).1
    have hrun := hloads t ht
    unfold Depot.wakeTime? at hwake
    unfold Depot.canRun at hrun
    simp only [setClock] at hrun
    cases hstage : w.depot.stages.get? t.load.id with
    | none => simp_all
    | some stage => cases stage <;> simp_all
  · obtain ⟨t, ht, hwake⟩ := List.mem_filterMap.mp h
    have hrun := htasks t ht
    cases ha : t.awaited with
    | time due =>
        obtain ⟨-, rfl⟩ : w.now < due ∧ due = time := by simpa [ha] using hwake
        simp [canRun, hasCome, ha, setClock, now] at hrun
    | loads pending => simp [ha] at hwake

/-- In a settled timeline, the time of a timer is awaited while its surface is alive. -/
theorem due_mem_wakeTimes (h : w.step? = none) (ht : t ∈ w.tasks) {due : Nat}
    (hdue : t.awaited = .time due) (hlive : w.isLive t.surface = true) : due ∈ w.wakeTimes := by
  have hrun := (not_canRun_of_step?_none h).2 t ht
  have hlater : w.now < due := by simpa [canRun, hasCome, hlive, hdue] using hrun
  refine List.mem_append_right _ (List.mem_filterMap.mpr ⟨t, ht, ?_⟩)
  simp [hdue, hlater]

/-! ### The clock -/

/-- Time goes by: a task takes a step, or, when no task can go on, the clock moves on, and no
further than to the next awaited time. -/
inductive Tick (w : Timeline) : Timeline → Prop
  | step {w' : Timeline} (h : w.step? = some w') : Tick w w'
  | clock (time : Nat) (hstill : w.step? = none) (hle : w.now ≤ time)
      (hnext : ∀ due ∈ w.wakeTimes, time ≤ due) : Tick w (w.setClock time)

abbrev Passes : Timeline → Timeline → Prop := Relation.ReflTransGen Tick

theorem passes_settleWithin (fuel : Nat) (w : Timeline) : w.Passes (w.settleWithin fuel) := by
  induction fuel generalizing w with
  | zero => exact .refl
  | succ fuel ih =>
      unfold settleWithin
      cases h : w.step? with
      | none => exact .refl
      | some w' => exact (ih w').head (.step h)

theorem Distinct.setClock (hd : w.Distinct) (time : Nat) : (w.setClock time).Distinct :=
  ⟨hd.loads, hd.tasks⟩

theorem Distinct.passes (hd : w.Distinct) (h : w.Passes w') : w'.Distinct := by
  induction h with
  | refl => exact hd
  | tail _ htick ih =>
      cases htick with
      | step hstep => exact (ih.step? hstep).1
      | clock time => exact ih.setClock time

/-- As long as time passes, some task is waiting for it, so there is enough fuel. -/
theorem Distinct.passes_runWithin (hd : w.Distinct) (goal : Timeline → Bool) {deadline : Nat}
    (hle : w.now ≤ deadline) {fuel : Nat}
    (hfuel : w.work < fuel ∨ w.work ≤ fuel ∧ w.step? ≠ none) :
    w.Passes (w.runWithin goal deadline fuel) := by
  induction fuel generalizing w with
  | zero =>
      rcases hfuel with hlt | ⟨hzero, hstep⟩
      · omega
      · have hlt := hd.work_settle_lt hstep
        omega
  | succ fuel ih =>
      have hsettled : w.Passes w.settle := passes_settleWithin w.work w
      have hstill : w.settle.step? = none := hd.step?_settleWithin (Nat.le_refl _)
      obtain ⟨hdistinct, hwork⟩ := hd.settleWithin w.work
      have hnow : w.settle.now ≤ deadline := (w.now_settleWithin w.work).trans_le hle
      have hless : w.settle.work ≤ fuel := by
        rcases hfuel with hlt | ⟨hmost, hstep⟩
        · exact Nat.le_trans hwork (Nat.le_of_lt_succ hlt)
        · have hlt := hd.work_settle_lt hstep
          omega
      unfold Timeline.runWithin
      simp only
      split
      · exact hsettled
      · cases hm : w.settle.wakeTimes.min? with
        | none =>
            have hnil : w.settle.wakeTimes = [] := List.min?_eq_none_iff.mp hm
            exact hsettled.tail (.clock deadline hstill hnow (by simp [hnil]))
        | some time =>
            obtain ⟨hmem, hleast⟩ := List.min?_eq_some_iff.mp hm
            simp only
            split
            · rename_i hreached
              have hclock := Tick.clock time hstill (Nat.le_of_lt (lt_of_mem_wakeTimes hmem)) hleast
              have hrest := ih (hdistinct.setClock time) hreached
                (Or.inr ⟨hless, step?_setClock_ne_none hmem⟩)
              exact (hsettled.tail hclock).trans hrest
            · rename_i hpast
              refine hsettled.tail (.clock deadline hstill hnow fun due hdue => ?_)
              have hfirst := hleast due hdue
              omega

theorem Distinct.passes_runUntil (hd : w.Distinct) (goal : Timeline → Bool) (ms : Nat) :
    w.Passes (w.runUntil goal ms) :=
  hd.passes_runWithin goal (Nat.le_add_right w.now ms) (Or.inl (Nat.lt_succ_self w.work))

theorem punctually_setClock {time : Nat} (hle : w.now ≤ time)
    (hcalls : ∀ t ∈ w.registry.tasks, w.depot.stages.get? t.load.id = none → time ≤ t.callAt) :
    w.depot.Punctually (w.setClock time).depot := by
  have hsum : w.depot.now + (time - w.now) = time := Nat.add_sub_cancel' hle
  have hpermits : w.depot.permits (.elapse (time - w.now)) = true := by
    refine List.all_eq_true.mpr ?_
    intro t ht
    cases hstage : w.depot.stages.get? t.load.id with
    | some stage => rfl
    | none => simpa [hsum] using hcalls t ht hstage
  have hclock := Depot.punctually_occur hpermits
  simp only [Depot.occur, hsum] at hclock
  exact hclock

theorem Passes.punctually (h : w.Passes w') : w.depot.Punctually w'.depot := by
  induction h with
  | refl => exact .refl w.depot
  | tail _ htick ih =>
      refine ih.trans ?_
      cases htick with
      | step hstep =>
          rcases step?_cases hstep with ⟨t, -, -, rfl⟩ | ⟨t, -, -, rfl⟩
          · exact Depot.punctually_occur (e := .poll t.load.id) rfl
          · rw [pollTask_depot]
            exact .refl _
      | clock time hstill hle hnext =>
          refine punctually_setClock hle fun t ht hstage => ?_
          exact hnext t.callAt (callAt_mem_wakeTimes hstill ht hstage)

/-- A timeline whose depot comes from a new registry on a punctual clock. -/
structure InTime (loaders : List Loader) (retry : RetryPolicy) (supply : Supply) (w : Timeline) :
    Prop where
  punctually : Depot.Punctually { registry := { loaders, retry }, supply } w.depot
  task_ids : (w.tasks.map SurfaceTask.id).Nodup

variable {loaders : List Loader} {retry : RetryPolicy} {supply : Supply}

theorem InTime.registry_eq (h : InTime loaders retry supply w) :
    ∃ es, w.registry = Registry.after { loaders, retry } es := by
  obtain ⟨events, -, hdepot⟩ := h.punctually
  refine ⟨Depot.history { registry := { loaders, retry }, supply } events, ?_⟩
  rw [registry, hdepot, Depot.registry_after]

theorem InTime.distinct (h : InTime loaders retry supply w) : w.Distinct := by
  obtain ⟨es, hregistry⟩ := h.registry_eq
  refine ⟨?_, h.task_ids⟩
  rw [hregistry]
  exact (Registry.manned_after loaders retry es).task_ids

theorem InTime.occur (h : InTime loaders retry supply w) {e : DepotEvent}
    (he : w.depot.permits e = true) :
    InTime loaders retry supply { w with depot := w.depot.occur e } :=
  ⟨h.punctually.trans (Depot.punctually_occur he), h.task_ids⟩

theorem InTime.passes (h : InTime loaders retry supply w) (hpasses : w.Passes w') :
    InTime loaders retry supply w' :=
  ⟨h.punctually.trans hpasses.punctually, (h.distinct.passes hpasses).tasks⟩

theorem InTime.settle (h : InTime loaders retry supply w) : InTime loaders retry supply w.settle :=
  h.passes (passes_settleWithin w.work w)

theorem InTime.runUntil (h : InTime loaders retry supply w) (goal : Timeline → Bool) (ms : Nat) :
    InTime loaders retry supply (w.runUntil goal ms) :=
  h.passes (h.distinct.passes_runUntil goal ms)

end Timeline

namespace Scenario

open Timeline

variable {loaders : List Loader} {retry : RetryPolicy} {supply : Supply}

theorem Bench.timeline_ensure (b : Bench) (language : String) :
    (b.run (.ensure language)).2.timeline =
      { b.timeline with depot := (b.timeline.depot.ensureLoaded language).2 } := by
  simp only [Bench.run, Timeline.ensureLoaded]
  cases (b.timeline.depot.ensureLoaded language).1 <;> rfl

theorem Bench.inTime_run {b : Bench} (h : InTime loaders retry supply b.timeline)
    (step : LoadStep) : InTime loaders retry supply (b.run step).2.timeline := by
  cases step with
  | ensure language =>
      rw [timeline_ensure]
      exact h.occur (e := .ensure language) rfl
  | finished handle =>
      simp only [Bench.run]
      cases b.load? handle with
      | none => exact h
      | some l => exact h.runUntil (fun w => w.registry.isFinished l) patience
  | isFinished handle =>
      simp only [Bench.run]
      cases b.load? handle <;> exact h
  | gate language isOpen => exact h.occur (e := .gate language isOpen) rfl
  | wait ms => exact h.runUntil (fun _ => false) ms
  | calls => exact h
  | status language => exact h
  | register language source =>
      simp only [Bench.run]
      cases source.load? with
      | none => exact h
      | some result =>
          cases result with
          | error e => exact h
          | ok g => exact h.occur (e := .register language g) rfl

theorem Setup.inTime_timeline (s : Setup) :
    InTime (s.loaders.map LoaderNote.loader) s.retry s.supply s.timeline := by
  have preloaded : ∀ (tags : List String) (d : Depot),
      d.Punctually { d with registry := tags.foldl preloadInto d.registry } := by
    intro tags
    induction tags with
    | nil => exact fun d => .refl d
    | cons tag tags ih =>
        intro d
        have hfirst : d.Punctually { d with registry := preloadInto d.registry tag } := by
          unfold preloadInto
          cases Builtin.load tag with
          | error e => exact .refl d
          | ok g => exact Depot.punctually_occur (e := .register tag g) rfl
        exact hfirst.trans (ih _)
  exact ⟨preloaded s.preload _, List.nodup_nil⟩

theorem inTime_of_mem_runLoads (watched : List String) {b : Bench}
    (h : InTime loaders retry supply b.timeline) {steps : List LoadStep} {report : LoadReport}
    (hreport : report ∈ runLoads watched b steps) :
    ∃ w, InTime loaders retry supply w ∧ report.time = w.now ∧
      report.statuses = watched.map fun tag => (tag, w.registry.status tag) := by
  induction steps generalizing b with
  | nil => simp [runLoads] at hreport
  | cons step steps ih =>
      have hnext : InTime loaders retry supply (b.run step).2.settle.timeline :=
        (Bench.inTime_run h step).settle
      rcases List.mem_cons.mp hreport with rfl | hrest
      · exact ⟨_, hnext, rfl, rfl⟩
      · exact ih hnext hrest

/-- What a scenario about loads reports is what a new depot comes to on a punctual clock. -/
theorem runLoads_punctual (setup : Setup) (watched : List String) (steps : List LoadStep)
    {report : LoadReport} (h : report ∈ runLoads watched ⟨setup.timeline, []⟩ steps) :
    let start : Depot :=
      { registry := { loaders := setup.loaders.map LoaderNote.loader, retry := setup.retry }
        supply := setup.supply }
    ∃ events, start.isPunctual events = true ∧ report.time = (start.after events).now ∧
      report.statuses = watched.map fun tag => (tag, (start.after events).registry.status tag) := by
  intro start
  obtain ⟨w, hw, htime, hstatuses⟩ := inTime_of_mem_runLoads watched setup.inTime_timeline h
  obtain ⟨events, hpunctual, hdepot⟩ := hw.punctually
  refine ⟨events, hpunctual, ?_, ?_⟩
  · exact htime.trans (congrArg Depot.now hdepot)
  · rw [hstatuses, registry, hdepot]

end Scenario

end Highlight
