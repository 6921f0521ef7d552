import Highlight.Proofs.Rendering.Passes
import Highlight.Proofs.Session.Acts
import Highlight.Proofs.Surface.Waiters

/-!
# Nobody is forgotten

As long as a mounted and living surface may lack decorations, something is on its way to it: a
timer, a follow-up, or a request that was made since the last computation.  A computation that
leaves something to do hands its loads to a follow-up of the surface, a mount starts a timer, and a
task goes only with its surface or with a request.
-/

namespace Highlight

/-- A task of the surface is under way, or a request for it was made after the first `mark`
requests. -/
def Timeline.Awake (w : Timeline) (mark n : Nat) : Prop :=
  (∃ t ∈ w.tasks, t.surface = n) ∨ ∃ m ∈ w.dispatched.drop mark, m.surface = n

namespace Timeline

variable {w : Timeline} {mark n : Nat}

theorem mem_drop_dispatch (hmark : mark ≤ w.dispatched.length) (n : Nat) (r : Request)
    (m : Dispatched) :
    m ∈ (w.dispatch n r).dispatched.drop mark ↔ m ∈ w.dispatched.drop mark ∨ m = ⟨n, r, w.now⟩ := by
  simp only [dispatch]
  rw [List.drop_append_of_le_length hmark]
  simp

theorem pollTask_surfaces (w : Timeline) (id : Nat) : (w.pollTask id).surfaces = w.surfaces := by
  have hp := w.polled id
  generalize w.pollTask id = w' at hp ⊢
  cases hp <;> rfl

theorem dispatched_le_pollTask (w : Timeline) (id : Nat) :
    w.dispatched.length ≤ (w.pollTask id).dispatched.length := by
  have hp := w.polled id
  generalize w.pollTask id = w' at hp ⊢
  cases hp with
  | ended t ht hid hlive hcome => simp [dispatch, dropTask]
  | _ => exact Nat.le_refl _

/-- A task goes only with its surface, or with a request. -/
theorem Awake.pollTask (h : w.Awake mark n) (hw : w.Numbered) (hmark : mark ≤ w.dispatched.length)
    (hlive : w.isLive n = true) (id : Nat) : (w.pollTask id).Awake mark n := by
  have hp := w.polled id
  generalize w.pollTask id = w' at hp ⊢
  cases hp with
  | idle => exact h
  | dropped t ht hid hdead =>
      rcases h with ⟨u, hu, hun⟩ | hm
      · have hne : u.id ≠ id := by
          intro heq
          rw [hw.eq_of_id_eq hu ht (heq.trans hid.symm)] at hun
          rw [hun, hlive] at hdead
          exact absurd hdead (by simp)
        exact Or.inl ⟨u, (mem_dropTask id u).mpr ⟨hu, hne⟩, hun⟩
      · exact Or.inr hm
  | ended t ht hid htlive hcome =>
      rcases h with ⟨u, hu, hun⟩ | ⟨m, hm, hmn⟩
      · by_cases heq : u.id = id
        · rw [hw.eq_of_id_eq hu ht (heq.trans hid.symm)] at hun
          exact Or.inr ⟨_, (mem_drop_dispatch hmark _ _ _).mpr (Or.inr rfl), hun⟩
        · exact Or.inl ⟨u, (mem_dropTask id u).mpr ⟨hu, heq⟩, hun⟩
      · exact Or.inr ⟨m, (mem_drop_dispatch hmark _ _ _).mpr (Or.inl hm), hmn⟩
  | advanced t ht hid htlive done rest hloads hdone =>
      rcases h with ⟨u, hu, hun⟩ | hm
      · by_cases heq : u.id = id
        · exact Or.inl ⟨_, mem_setAwaited_self _ hu heq, hun⟩
        · exact Or.inl ⟨u, mem_setAwaited_of_ne _ hu heq, hun⟩
      · exact Or.inr hm

end Timeline

namespace Pass

variable {p : Pass} {w : Timeline}

/-- A computation hands the loads of its pass over, if there are any. -/
theorem recompute_followUp (p : Pass) (w : Timeline) (doc : Document) :
    let result := p.engine.recompute w.registry w.now doc
    let followed := p.scheduler.followUp (w.setRegistry result.2.2) result.1.pending
    (p.recompute w doc).1.scheduler = followed.1 ∧ (p.recompute w doc).2.1 = followed.2 := by
  intro result followed
  obtain ⟨-, -, hpending⟩ := p.engine.recompute_waits w.registry w.now doc
  unfold recompute
  cases hinc : (p.engine.recompute w.registry w.now doc).1.incomplete with
  | true => simp [hinc, result, followed]
  | false => simp [hinc, result, followed, hpending.mp hinc, Scheduler.followUp]

theorem orderly_recompute (h : p.scheduler.Orderly w) (doc : Document) :
    (p.recompute w doc).1.scheduler.Orderly (p.recompute w doc).2.1 := by
  obtain ⟨hscheduler, htimeline⟩ := p.recompute_followUp w doc
  rw [hscheduler, htimeline]
  have hset : p.scheduler.Orderly
      (w.setRegistry (p.engine.recompute w.registry w.now doc).2.2) := h.congr rfl rfl rfl
  exact hset.followUp _

theorem orderly_mount (h : p.scheduler.Orderly w) (n : Nat) :
    (p.mount w n).1.scheduler.Orderly (p.mount w n).2 := by
  have hattached := h.attach (some n)
  unfold mount
  simp only
  split
  · exact hattached
  · exact hattached.scheduleDeferred

/-- A surface that is mounted while something is left to do gets a timer. -/
theorem exists_timer_of_mount {n m : Nat} (hphase : p.phase ≠ .highlighted)
    (hlive : (p.mount w n).1.scheduler.liveSurface? (p.mount w n).2 = some m) :
    ∃ t ∈ (p.mount w n).2.tasks, t.surface = m := by
  have htimeline : (p.mount w n).2 =
      ((p.scheduler.attach w n).1.scheduleDeferred (p.scheduler.attach w n).2).2 := by
    unfold mount
    simp only [hphase, if_false]
  have hattached : (p.scheduler.attach w n).1.liveSurface? (p.scheduler.attach w n).2 = some m := by
    rw [htimeline] at hlive
    exact (Scheduler.scheduleDeferred_liveSurface? _ _).symm.trans hlive
  rw [htimeline, Scheduler.scheduleDeferred, hattached]
  exact ⟨_, (Timeline.mem_spawn m _ _).mpr (Or.inr rfl), rfl⟩

end Pass

namespace Session

variable {s : Session}

theorem orderly_act (h : s.pass.scheduler.Orderly s.timeline) (a : Act) :
    (s.act a).pass.scheduler.Orderly (s.act a).timeline := by
  have hcycle : ∀ c, (s.cycle c).pass.scheduler.Orderly (s.cycle c).timeline := by
    intro c
    by_cases hremap : s.pass.phase.decide (c.facts s.pass.engine.scanner) = .remap
    · rw [cycle_of_remap hremap]
      exact h
    · rw [cycle_of_recompute hremap]
      exact Pass.orderly_recompute h c.doc
  cases hc : s.change? a with
  | some c =>
      rw [act_of_change? hc]
      exact hcycle c
  | none =>
      cases a with
      | edit e note =>
          rw [act_edit_of_change?_none hc]
          exact h
      | idle note => exact hcycle _
      | deliver => exact hcycle _
      | mount => exact Pass.orderly_mount h.addSurface _
      | remount n =>
          simp only [act, remount]
          split
          · exact Pass.orderly_mount h n
          · exact h
      | unmount => exact h.attach none
      | tearDown n => exact h.tearDown n
      | wake task => exact h.pollTask task
      | aside a =>
          obtain ⟨hpass, -, -⟩ := s.aside_host a
          obtain ⟨hsurfaces, htasks, hnext, -⟩ := s.aside_timeline a
          simp only [act, hpass]
          exact h.congr hsurfaces htasks hnext

/-! ### Renewals -/

/-- The act mounts a surface, or computes the decorations anew. -/
def renews (s : Session) (a : Act) : Bool :=
  match a with
  | .mount => true
  | .remount n => n < s.timeline.surfaces.length
  | a => (s.change? a).any fun c =>
      s.pass.phase.decide (c.facts s.pass.engine.scanner) != .remap

/-- How many requests there had been at the last mount or computation of a run, or `mark` if there
was neither. -/
def lastRenewal (s : Session) (mark : Nat) : List Act → Nat
  | [] => mark
  | a :: as =>
      (s.act a).lastRenewal (if s.renews a then (s.act a).timeline.dispatched.length else mark) as

/-- While something may be left to do for a living surface, something is on its way to it. -/
structure Wakeful (mark : Nat) (s : Session) : Prop where
  orderly : s.pass.scheduler.Orderly s.timeline
  mark_le : mark ≤ s.timeline.dispatched.length
  awake : ∀ n, s.pass.scheduler.liveSurface? s.timeline = some n → s.pass.phase ≠ .highlighted →
    s.timeline.Awake mark n

theorem wakeful_opened (depot : Depot) (settings : Settings) (doc : Document) :
    (opened depot settings doc).Wakeful 0 := by
  refine ⟨⟨⟨?_, ?_, ?_⟩, ?_, ?_, ?_⟩, Nat.le_refl 0, ?_⟩
  all_goals simp [opened, Session.start, Timeline.addSurface, Pass.ofSettings,
    Scheduler.liveSurface?]

theorem Wakeful.recompute {mark : Nat} (h : s.Wakeful mark) {c : Change}
    (hrecompute : s.pass.phase.decide (c.facts s.pass.engine.scanner) ≠ .remap) :
    (s.cycle c).Wakeful (s.cycle c).timeline.dispatched.length := by
  rw [cycle_of_recompute hrecompute]
  refine ⟨Pass.orderly_recompute h.orderly c.doc, Nat.le_refl _, ?_⟩
  intro n hlive hphase
  obtain ⟨-, -, hpending⟩ := s.pass.engine.recompute_waits s.timeline.registry s.timeline.now c.doc
  have hloads :
      (s.pass.engine.recompute s.timeline.registry s.timeline.now c.doc).1.pending ≠ [] := by
    intro hnil
    exact hphase ((Phase.afterPass_eq_highlighted_iff _).mpr (hpending.mpr hnil))
  obtain ⟨hscheduler, htimeline⟩ := s.pass.recompute_followUp s.timeline c.doc
  have hset : s.pass.scheduler.Orderly (s.timeline.setRegistry
      (s.pass.engine.recompute s.timeline.registry s.timeline.now c.doc).2.2) :=
    h.orderly.congr rfl rfl rfl
  simp only [hscheduler, htimeline, Scheduler.followUp_liveSurface?] at hlive
  obtain ⟨t, ht, htn⟩ := hset.exists_waiter hlive hloads
  exact Or.inl ⟨t, htimeline ▸ ht, htn⟩

theorem wakeful_mounted {w : Timeline} (hw : s.pass.scheduler.Orderly w) (n surface : Nat) :
    Wakeful (s.pass.mount w n).2.dispatched.length
      { s with surface, pass := (s.pass.mount w n).1, timeline := (s.pass.mount w n).2 } := by
  refine ⟨Pass.orderly_mount hw n, Nat.le_refl _, ?_⟩
  intro m hlive hphase
  exact Or.inl (Pass.exists_timer_of_mount hphase hlive)

theorem Wakeful.congr {mark : Nat} {s' : Session} (h : s.Wakeful mark) (hpass : s'.pass = s.pass)
    (hsurfaces : s'.timeline.surfaces = s.timeline.surfaces)
    (htasks : s'.timeline.tasks = s.timeline.tasks)
    (hnext : s'.timeline.nextTask = s.timeline.nextTask)
    (hdispatched : s'.timeline.dispatched = s.timeline.dispatched) : s'.Wakeful mark := by
  refine ⟨hpass ▸ h.orderly.congr hsurfaces htasks hnext, hdispatched ▸ h.mark_le, ?_⟩
  intro n hlive hphase
  have hbefore : s.pass.scheduler.liveSurface? s.timeline = some n := by
    have hsame : s.timeline.isLive = s'.timeline.isLive := by
      funext m
      rw [Timeline.isLive, Timeline.isLive, hsurfaces]
    rw [Scheduler.liveSurface?, hsame, ← hpass]
    exact hlive
  have hawake := h.awake n hbefore (hpass ▸ hphase)
  rw [Timeline.Awake, htasks, hdispatched]
  exact hawake

theorem renews_of_change? {a : Act} {c : Change} (hc : s.change? a = some c) :
    s.renews a = (s.pass.phase.decide (c.facts s.pass.engine.scanner) != .remap) := by
  cases a with
  | edit e note => simp [renews, hc]
  | idle note => simp [renews, hc]
  | deliver => simp [renews, hc]
  | _ => simp [change?] at hc

theorem Wakeful.cycle {mark : Nat} (h : s.Wakeful mark) {a : Act} {c : Change}
    (hc : s.change? a = some c) :
    (s.cycle c).Wakeful (if s.renews a then (s.cycle c).timeline.dispatched.length else mark) := by
  rw [renews_of_change? hc]
  by_cases hremap : s.pass.phase.decide (c.facts s.pass.engine.scanner) = .remap
  · -- nothing was left to do
    have hphase := ((Phase.decide_eq_remap_iff _ _).mp hremap).2.2
    rw [cycle_of_remap hremap]
    simp only [hremap, bne_self_eq_false, Bool.false_eq_true, if_false]
    exact ⟨h.orderly, h.mark_le, fun _ _ hne => absurd hphase hne⟩
  · simp only [bne_iff_ne, ne_eq, hremap, not_false_eq_true, if_true]
    exact h.recompute hremap

theorem Wakeful.act {mark : Nat} (h : s.Wakeful mark) (a : Act) :
    (s.act a).Wakeful (if s.renews a then (s.act a).timeline.dispatched.length else mark) := by
  cases hc : s.change? a with
  | some c =>
      rw [act_of_change? hc]
      exact h.cycle hc
  | none =>
      have horderly := orderly_act h.orderly a
      cases a with
      | edit e note =>
          rw [act_edit_of_change?_none hc]
          simp only [renews, hc, Option.any_none]
          exact h
      | idle note => simp [change?] at hc
      | deliver => simp [change?] at hc
      | mount => exact wakeful_mounted h.orderly.addSurface _ _
      | remount n =>
          by_cases hn : n < s.timeline.surfaces.length
          · simp only [renews, act_remount_of_lt hn, hn, decide_true, if_true]
            exact wakeful_mounted h.orderly n n
          · simp only [renews, act_remount_of_not_lt hn, hn, decide_false]
            exact h
      | unmount =>
          refine ⟨horderly, ?_, ?_⟩
          · exact (Scheduler.detach_tasks s.pass.scheduler s.timeline).2.2 ▸ h.mark_le
          · intro n hlive
            have hnone : (s.act .unmount).pass.scheduler.surface? = none := rfl
            rw [(Option.filter_eq_some_iff.mp hlive).1] at hnone
            exact absurd hnone (Option.some_ne_none n)
      | tearDown m =>
          refine ⟨horderly, h.mark_le, ?_⟩
          intro n hlive hphase
          obtain ⟨hs, hn⟩ := Option.filter_eq_some_iff.mp hlive
          have hbefore := ((Timeline.isLive_tearDown m n).mp hn).1
          exact h.awake n (Option.filter_eq_some_iff.mpr ⟨hs, hbefore⟩) hphase
      | wake id =>
          refine ⟨horderly, Nat.le_trans h.mark_le (Timeline.dispatched_le_pollTask _ _), ?_⟩
          intro n hlive hphase
          obtain ⟨hs, hn⟩ := Option.filter_eq_some_iff.mp hlive
          have hbefore : s.timeline.isLive n = true := by
            rw [Timeline.isLive, ← s.timeline.pollTask_surfaces id]
            exact hn
          have hawake := h.awake n (Option.filter_eq_some_iff.mpr ⟨hs, hbefore⟩) hphase
          exact hawake.pollTask h.orderly.numbered h.mark_le hbefore id
      | aside a =>
          obtain ⟨hsurfaces, htasks, hnext, hdispatched⟩ := s.aside_timeline a
          exact h.congr (s.aside_host a).1 hsurfaces htasks hnext hdispatched

theorem Wakeful.run {mark : Nat} (h : s.Wakeful mark) (acts : List Act) :
    (s.run acts).Wakeful (s.lastRenewal mark acts) := by
  induction acts generalizing s mark with
  | nil => exact h
  | cons a as ih => exact ih (h.act a)

/-- A mounted session never gets stuck: in every state of a session, if the attached surface is
alive and the last computation left something to do, or there was none, then a task of the surface
is under way, or a request was made for it after the later of its mount and the last computation. -/
theorem task_or_request_for_live_surface (depot : Depot) (settings : Settings) (doc : Document)
    (acts : List Act) (n : Nat)
    (hlive : ((opened depot settings doc).run acts).pass.scheduler.liveSurface?
      ((opened depot settings doc).run acts).timeline = some n)
    (hphase : ((opened depot settings doc).run acts).pass.phase ≠ .highlighted) :
    let s := (opened depot settings doc).run acts
    (∃ t ∈ s.timeline.tasks, t.surface = n) ∨
      ∃ m ∈ s.timeline.dispatched.drop ((opened depot settings doc).lastRenewal 0 acts),
        m.surface = n :=
  ((wakeful_opened depot settings doc).run acts).awake n hlive hphase

/-- The timer has asked for a pass, the pass has waited for a load that failed, and its follow-up
has ended: no task is left, so a request is on its way. -/
theorem request_after_failed_load :
    let loader : Loader := ⟨(· == "x"), fun tag => .error (.notFound tag)⟩
    let depot : Depot := { registry := { loaders := [loader] } }
    let doc : Document := ⟨[{ id := 1, language := some "x", text := "ab" }]⟩
    let acts : List Act :=
      [.mount, .aside (.elapse 10), .wake 0, .deliver,
        .aside (.registry (.finish 1 (.error (.notFound "x")))), .wake 1]
    let s := (opened depot {} doc).run acts
    s.pass.scheduler.liveSurface? s.timeline = some 1 ∧ s.pass.phase ≠ .highlighted ∧
      s.timeline.tasks = [] ∧
      ∃ m ∈ s.timeline.dispatched.drop ((opened depot {} doc).lastRenewal 0 acts),
        m.surface = 1 := by
  intro loader depot doc acts s
  have hlive : s.pass.scheduler.liveSurface? s.timeline = some 1 := by decide +kernel
  have hphase : s.pass.phase ≠ .highlighted := by decide +kernel
  have htasks : s.timeline.tasks = [] := by decide +kernel
  refine ⟨hlive, hphase, htasks, ?_⟩
  rcases task_or_request_for_live_surface depot {} doc acts 1 hlive hphase with ⟨t, ht, -⟩ | hm
  · have hnone : t ∈ s.timeline.tasks := ht
    rw [htasks] at hnone
    exact absurd hnone List.not_mem_nil
  · exact hm

end Session

end Highlight
