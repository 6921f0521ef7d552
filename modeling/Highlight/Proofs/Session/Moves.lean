import Highlight.Proofs.Session.Wakeful
import Highlight.Proofs.Surface.Still

/-!
# What an act does to surfaces and tasks

A mount or an unmount tears the attached surface down, a teardown the surface that it names, and no
other act ends a lifetime.  A mount may start a timer, and an incomplete pass a follow-up, for the
surface that is attached then.  A task is over when its surface is gone or when it makes its
request.  `Moved` says all this of one act, and what is true of whole runs follows from it.
-/

namespace Highlight

namespace Session

/-- The surface that an act mounts, if it mounts one. -/
def mounts? (s : Session) : Act → Option Nat
  | .mount => some s.timeline.surfaces.length
  | .remount n => if n < s.timeline.surfaces.length then some n else none
  | _ => none

/-- The act is no mount and no unmount, and does not tear the surface down. -/
structure Spares (n : Nat) (s : Session) (a : Act) : Prop where
  mounts?_eq : s.mounts? a = none
  ne_unmount : a ≠ .unmount
  ne_tearDown : a ≠ .tearDown n

/-- The act starts a task that will make a request for a surface: a mount its timer, or an
incomplete pass a follow-up of the attached surface. -/
inductive Starts (s : Session) (a : Act) (n : Nat) : Request → Prop
  | timer (hmounts : s.mounts? a = some n) (hphase : s.pass.phase ≠ .highlighted)
      (hlive : (s.act a).timeline.isLive n = true) : Starts s a n .deferredPass
  | followUp (c : Change) (hc : s.change? a = some c)
      (hrecompute : s.pass.phase.decide (c.facts s.pass.engine.scanner) ≠ .remap)
      (hincomplete : (s.pass.engine.recompute s.timeline.registry s.timeline.now
        c.doc).1.incomplete = true)
      (hlive : s.pass.scheduler.liveSurface? s.timeline = some n) : Starts s a n .grammarLoaded

/-- What an act can do to tasks. -/
structure Served (s : Session) (a : Act) (s' : Session) : Prop where
  task : ∀ t ∈ s'.timeline.tasks,
    (∃ u ∈ s.timeline.tasks, u.id = t.id ∧ u.surface = t.surface ∧
      u.awaited.request = t.awaited.request ∧ (t.awaited.request = .deferredPass → u = t)) ∨
    s'.pass.scheduler.surface? = some t.surface ∧ s.Starts a t.surface t.awaited.request
  timer : ∀ t ∈ s.timeline.tasks, ∀ due, t.awaited = .time due →
    s.timeline.isLive t.surface = true → t ∈ s'.timeline.tasks ∨
      t ∉ s'.timeline.tasks ∧ due ≤ s.timeline.now ∧
        s'.timeline.dispatched =
          s.timeline.dispatched ++ [⟨t.surface, .deferredPass, s.timeline.now⟩]
  dispatched : s'.timeline.dispatched = s.timeline.dispatched ∨
    ∃ t ∈ s.timeline.tasks, t ∉ s'.timeline.tasks ∧ s.timeline.isLive t.surface = true ∧
      s'.timeline.isLive t.surface = true ∧ s'.timeline.dispatched =
        s.timeline.dispatched ++ [⟨t.surface, t.awaited.request, s.timeline.now⟩]

/-- What an act can do to surfaces and their tasks. -/
structure Moved (s : Session) (a : Act) (s' : Session) : Prop extends s.Served a s' where
  length_le : s.timeline.surfaces.length ≤ s'.timeline.surfaces.length
  live : ∀ n, n < s.timeline.surfaces.length → s'.timeline.isLive n = true →
    s.timeline.isLive n = true ∧ (s.pass.scheduler.surface? = some n → s.Spares n a)
  attached : s.mounts? a = none → a ≠ .unmount →
    s'.pass.scheduler.surface? = s.pass.scheduler.surface?
  mounted : ∀ n, s.mounts? a = some n →
    s'.pass.scheduler.surface? = some n ∧ n < s'.timeline.surfaces.length
  unmounted : a = .unmount → s'.pass.scheduler.surface? = none
  delay_eq : s'.pass.scheduler.delay = s.pass.scheduler.delay
  started : ∀ n, s.mounts? a = some n → s.pass.phase ≠ .highlighted →
    s'.timeline.isLive n = true → ∃ t ∈ s'.timeline.tasks,
      t.surface = n ∧ t.awaited = .time (s.timeline.now + s.pass.scheduler.delay) ∧
        ∀ u ∈ s'.timeline.tasks, u ∈ s.timeline.tasks ∨ u = t

variable {s s' : Session} {a : Act}

/-- An act that makes no request and leaves the tasks as they are. -/
theorem served_of_tasks_eq (htasks : s'.timeline.tasks = s.timeline.tasks)
    (hdispatched : s'.timeline.dispatched = s.timeline.dispatched) : s.Served a s' := by
  refine ⟨?_, ?_, Or.inl hdispatched⟩
  · intro t ht
    exact Or.inl ⟨t, htasks ▸ ht, rfl, rfl, rfl, fun _ => rfl⟩
  · intro t ht _ _ _
    exact Or.inl (htasks.symm ▸ ht)

/-- An act that leaves all surfaces as they are. -/
theorem Served.moved (h : s.Served a s') (hspares : ∀ n, s.Spares n a)
    (hsurface : s'.pass.scheduler.surface? = s.pass.scheduler.surface?)
    (hdelay : s'.pass.scheduler.delay = s.pass.scheduler.delay)
    (hsurfaces : s'.timeline.surfaces = s.timeline.surfaces) : s.Moved a s' := by
  have hnone := (hspares 0).mounts?_eq
  have hlive : s'.timeline.isLive = s.timeline.isLive := by
    funext n
    rw [Timeline.isLive, Timeline.isLive, hsurfaces]
  refine ⟨h, Nat.le_of_eq (by rw [hsurfaces]), ?_, fun _ _ => hsurface, ?_, ?_, hdelay, ?_⟩
  · intro n _ hn
    exact ⟨hlive ▸ hn, fun _ => hspares n⟩
  · intro n hn
    simp [hnone] at hn
  · intro ha
    exact absurd ha (hspares 0).ne_unmount
  · intro n hn
    simp [hnone] at hn

/-- An act that leaves surfaces and tasks as they are. -/
theorem moved_beside (hspares : ∀ n, s.Spares n a)
    (hscheduler : s'.pass.scheduler = s.pass.scheduler)
    (hsurfaces : s'.timeline.surfaces = s.timeline.surfaces)
    (htasks : s'.timeline.tasks = s.timeline.tasks)
    (hdispatched : s'.timeline.dispatched = s.timeline.dispatched) : s.Moved a s' := by
  have hserved : s.Served a s' := served_of_tasks_eq htasks hdispatched
  exact hserved.moved hspares (by rw [hscheduler]) (by rw [hscheduler]) hsurfaces

theorem spares_of_change? {c : Change} (hc : s.change? a = some c) (n : Nat) : s.Spares n a := by
  cases a with
  | edit e note => exact ⟨rfl, by simp, by simp⟩
  | idle note => exact ⟨rfl, by simp, by simp⟩
  | deliver => exact ⟨rfl, by simp, by simp⟩
  | _ => simp [change?] at hc

/-- A follow-up is not a timer, whether loads join it or it is new. -/
theorem moved_followed {r : Registry} {loads : List Load} {next : Scheduler × Timeline}
    (hspares : ∀ n, s.Spares n a) (h : s.pass.scheduler.Orderly (s.timeline.setRegistry r))
    (hf : Scheduler.Followed s.pass.scheduler (s.timeline.setRegistry r) loads next)
    (hstarts : loads ≠ [] → ∀ n, s.pass.scheduler.liveSurface? s.timeline = some n →
      s.Starts a n .grammarLoaded)
    (hscheduler : s'.pass.scheduler = next.1) (htimeline : s'.timeline = next.2) :
    s.Moved a s' := by
  cases hf with
  | nothing _ =>
      exact moved_beside hspares hscheduler (by rw [htimeline]; rfl) (by rw [htimeline]; rfl)
        (by rw [htimeline]; rfl)
  | joined t pending ht hbatch hpending hlive hloads =>
      refine Served.moved ⟨?_, ?_, Or.inl (by rw [htimeline]; rfl)⟩ hspares (by rw [hscheduler])
        (by rw [hscheduler]) (by rw [htimeline]; rfl)
      · intro t' ht'
        rw [htimeline] at ht'
        rcases Timeline.mem_setAwaited ht' with ⟨hold, -⟩ | ⟨u, hu, hid, rfl⟩
        · exact Or.inl ⟨t', hold, rfl, rfl, rfl, fun _ => rfl⟩
        · obtain rfl : u = t := h.numbered.eq_of_id_eq hu ht hid
          refine Or.inl ⟨u, hu, rfl, rfl, ?_, ?_⟩
          · rw [hpending]
            rfl
          · simp [Awaited.request]
      · intro t' ht' due hdue _
        left
        rw [htimeline]
        apply Timeline.mem_setAwaited_of_ne _ ht'
        intro hid
        rw [h.numbered.eq_of_id_eq ht' ht hid, hpending] at hdue
        simp at hdue
  | opened n hlive hloads hclosed =>
      refine Served.moved ⟨?_, ?_, Or.inl (by rw [htimeline]; rfl)⟩ hspares (by rw [hscheduler])
        (by rw [hscheduler]) (by rw [htimeline]; rfl)
      · intro t' ht'
        rw [htimeline] at ht'
        rcases (Timeline.mem_spawn n _ t').mp ht' with hold | rfl
        · exact Or.inl ⟨t', hold, rfl, rfl, rfl, fun _ => rfl⟩
        · refine Or.inr ⟨?_, hstarts hloads n hlive⟩
          rw [hscheduler]
          exact (Option.filter_eq_some_iff.mp hlive).1
      · intro t' ht' _ _ _
        left
        rw [htimeline]
        exact (Timeline.mem_spawn n _ t').mpr (Or.inl ht')

theorem moved_cycle (h : s.pass.scheduler.Orderly s.timeline) {c : Change}
    (hc : s.change? a = some c) : s.Moved a (s.cycle c) := by
  have hspares := spares_of_change? hc
  by_cases hremap : s.pass.phase.decide (c.facts s.pass.engine.scanner) = .remap
  · rw [cycle_of_remap hremap]
    exact moved_beside hspares rfl rfl rfl rfl
  · obtain ⟨hscheduler, htimeline⟩ := s.pass.recompute_followUp s.timeline c.doc
    obtain ⟨-, -, hpending⟩ :=
      s.pass.engine.recompute_waits s.timeline.registry s.timeline.now c.doc
    have hset : s.pass.scheduler.Orderly (s.timeline.setRegistry
        (s.pass.engine.recompute s.timeline.registry s.timeline.now c.doc).2.2) :=
      h.congr rfl rfl rfl
    rw [cycle_of_recompute hremap]
    refine moved_followed hspares hset (hset.followed _) ?_ hscheduler htimeline
    intro hloads n hlive
    refine .followUp c hc hremap ?_ hlive
    rw [← Bool.not_eq_false, hpending]
    exact hloads

/-! ### Going on with a task -/

theorem moved_wake (h : s.pass.scheduler.Orderly s.timeline) (id : Nat) :
    s.Moved (.wake id) (s.act (.wake id)) := by
  have hspares : ∀ n, s.Spares n (.wake id) := fun n => ⟨rfl, by simp, by simp⟩
  have hp := s.timeline.polled id
  have hact : (s.act (.wake id)).timeline = s.timeline.pollTask id := rfl
  generalize hw : s.timeline.pollTask id = w at hp hact
  generalize hs' : s.act (.wake id) = s' at hact ⊢
  have hpass : s'.pass = s.pass := by
    rw [← hs']
    rfl
  cases hp with
  | idle =>
      exact moved_beside hspares (by rw [hpass]) (by rw [hact]) (by rw [hact]) (by rw [hact])
  | dropped t ht hid hdead =>
      refine Served.moved ⟨?_, ?_, Or.inl (by rw [hact]; rfl)⟩ hspares (by rw [hpass])
        (by rw [hpass])
        (by rw [hact]; rfl)
      · intro t' ht'
        rw [hact] at ht'
        exact Or.inl ⟨t', ((Timeline.mem_dropTask id t').mp ht').1, rfl, rfl, rfl, fun _ => rfl⟩
      · intro t' ht' due _ hlive
        left
        rw [hact]
        refine (Timeline.mem_dropTask id t').mpr ⟨ht', fun hid' => ?_⟩
        rw [h.numbered.eq_of_id_eq ht' ht (hid'.trans hid.symm), hdead] at hlive
        exact Bool.false_ne_true hlive
  | ended t ht hid hlive hcome hdue =>
      have hgone : t ∉ s'.timeline.tasks := by
        rw [hact]
        exact fun hmem => ((Timeline.mem_dropTask id t).mp hmem).2 hid
      have hmade : s'.timeline.dispatched =
          s.timeline.dispatched ++ [⟨t.surface, t.awaited.request, s.timeline.now⟩] := by
        rw [hact]
        rfl
      refine Served.moved
        ⟨?_, ?_, Or.inr ⟨t, ht, hgone, hlive, by rw [hact]; exact hlive, hmade⟩⟩ hspares
          (by rw [hpass])
        (by rw [hpass]) (by rw [hact]; rfl)
      · intro t' ht'
        rw [hact] at ht'
        exact Or.inl ⟨t', ((Timeline.mem_dropTask id t').mp ht').1, rfl, rfl, rfl, fun _ => rfl⟩
      · intro t' ht' due ha _
        by_cases heq : t' = t
        · subst heq
          exact Or.inr ⟨hgone, hdue due ha, by rw [hmade, ha]; rfl⟩
        · left
          rw [hact]
          refine (Timeline.mem_dropTask id t').mpr ⟨ht', fun hid' => heq ?_⟩
          exact h.numbered.eq_of_id_eq ht' ht (hid'.trans hid.symm)
  | advanced t ht hid hlive done rest hloads hdone =>
      refine Served.moved ⟨?_, ?_, Or.inl (by rw [hact]; rfl)⟩ hspares (by rw [hpass])
        (by rw [hpass])
        (by rw [hact]; rfl)
      · intro t' ht'
        rw [hact] at ht'
        rcases Timeline.mem_setAwaited ht' with ⟨hold, -⟩ | ⟨u, hu, huid, rfl⟩
        · exact Or.inl ⟨t', hold, rfl, rfl, rfl, fun _ => rfl⟩
        · obtain rfl : u = t := h.numbered.eq_of_id_eq hu ht (huid.trans hid.symm)
          refine Or.inl ⟨u, hu, rfl, rfl, ?_, ?_⟩
          · rw [hloads]
            rfl
          · simp [Awaited.request]
      · intro t' ht' due ha _
        left
        rw [hact]
        apply Timeline.mem_setAwaited_of_ne _ ht'
        intro hid'
        rw [h.numbered.eq_of_id_eq ht' ht (hid'.trans hid.symm), hloads] at ha
        simp at ha

/-! ### Mounting and tearing down -/

theorem isLive_detach (sch : Scheduler) (w : Timeline) (n : Nat) :
    (sch.detach w).2.isLive n = true ↔ w.isLive n = true ∧ sch.surface? ≠ some n := by
  unfold Scheduler.detach
  cases hs : sch.surface? with
  | none => simp
  | some m =>
      rw [Timeline.isLive_tearDown, ne_comm]
      simp

/-- A mount tears the attached surface down, and starts a timer if something may be left to do for
the new one. -/
theorem pass_mount_timeline (p : Pass) (w : Timeline) (n : Nat) :
    (p.mount w n).1.scheduler = { p.scheduler with surface? := some n, batch? := none } ∧
      (∀ m, (p.mount w n).2.isLive m = (p.scheduler.detach w).2.isLive m) ∧
      (p.mount w n).2.surfaces.length = w.surfaces.length ∧
      (p.mount w n).2.dispatched = w.dispatched ∧
      (p.mount w n).2.tasks = w.tasks ++
        if p.phase ≠ .highlighted ∧ (p.scheduler.detach w).2.isLive n = true then
          [⟨w.nextTask, n, .time (w.now + p.scheduler.delay)⟩] else [] := by
  have hdetached := p.scheduler.detach_tasks w
  have hlength : (p.scheduler.detach w).2.surfaces.length = w.surfaces.length := by
    unfold Scheduler.detach
    cases p.scheduler.surface? <;> simp [Timeline.tearDown, Lifetime.tearDownAt]
  have hnow : (p.scheduler.detach w).2.now = w.now := congrArg Depot.now (detach_depot _ _)
  unfold Pass.mount Scheduler.attach
  simp only [ne_eq]
  by_cases hphase : p.phase = .highlighted
  · simp only [hphase, if_true, not_true_eq_false, false_and, if_false, List.append_nil,
      implies_true, true_and]
    exact ⟨rfl, hlength, hdetached.2.2, hdetached.1⟩
  · simp only [hphase, if_false, not_false_eq_true, true_and]
    cases hlive : (p.scheduler.detach w).2.isLive n with
    | false =>
        have hnone : ({ (p.scheduler.detach w).1 with surface? := some n } : Scheduler).liveSurface?
            (p.scheduler.detach w).2 = none := by
          simp [Scheduler.liveSurface?, hlive]
        simp only [Scheduler.scheduleDeferred, hnone, Bool.false_eq_true, if_false, List.append_nil,
          implies_true, true_and]
        exact ⟨rfl, hlength, hdetached.2.2, hdetached.1⟩
    | true =>
        have hsome : ({ (p.scheduler.detach w).1 with surface? := some n } : Scheduler).liveSurface?
            (p.scheduler.detach w).2 = some n := by
          simp [Scheduler.liveSurface?, hlive]
        simp only [Scheduler.scheduleDeferred, hsome, if_true]
        refine ⟨rfl, fun _ => rfl, hlength, hdetached.2.2, ?_⟩
        simp only [Timeline.spawn, hdetached.1, hdetached.2.1, hnow]
        rfl

/-- A mounted session is one in which a surface was mounted that there is. -/
theorem act_of_mounts? {n : Nat} (hn : s.mounts? a = some n) :
    ∃ w : Timeline, (w = s.timeline ∧ n < s.timeline.surfaces.length ∨
        w = s.timeline.addSurface.2 ∧ n = s.timeline.surfaces.length) ∧
      s.act a =
        { s with
          surface := n
          pass := (s.pass.mount w n).1
          timeline := (s.pass.mount w n).2 } := by
  cases a with
  | mount =>
      obtain rfl : s.timeline.surfaces.length = n := by simpa [mounts?] using hn
      exact ⟨s.timeline.addSurface.2, Or.inr ⟨rfl, rfl⟩, rfl⟩
  | remount m =>
      obtain ⟨hlt, rfl⟩ : m < s.timeline.surfaces.length ∧ m = n := by simpa [mounts?] using hn
      exact ⟨s.timeline, Or.inl ⟨rfl, hlt⟩, act_remount_of_lt hlt⟩
  | _ => simp [mounts?] at hn

theorem moved_mount {n : Nat} (hn : s.mounts? a = some n) : s.Moved a (s.act a) := by
  obtain ⟨w, hw, hact⟩ := act_of_mounts? hn
  obtain ⟨hscheduler, hlive, hlength, hdispatched, htasks⟩ := pass_mount_timeline s.pass w n
  have hunmount : a ≠ .unmount := by
    rintro rfl
    simp [mounts?] at hn
  -- the timeline with the new surface differs from the one before in nothing else
  have hsame : w.tasks = s.timeline.tasks ∧ w.nextTask = s.timeline.nextTask ∧
      w.dispatched = s.timeline.dispatched ∧ w.now = s.timeline.now ∧
      s.timeline.surfaces.length ≤ w.surfaces.length ∧ n < w.surfaces.length ∧
      ∀ m, m < s.timeline.surfaces.length → w.isLive m = true → s.timeline.isLive m = true := by
    rcases hw with ⟨rfl, hlt⟩ | ⟨rfl, rfl⟩
    · exact ⟨rfl, rfl, rfl, rfl, Nat.le_refl _, hlt, fun _ _ hm => hm⟩
    · refine ⟨rfl, rfl, rfl, rfl, by simp [Timeline.addSurface], by simp [Timeline.addSurface], ?_⟩
      intro m hm hmlive
      exact ((Timeline.isLive_addSurface m).mp hmlive).resolve_right (Nat.ne_of_lt hm)
  obtain ⟨hwtasks, hwnext, hwdispatched, hwnow, hwlength, hnlt, hwlive⟩ := hsame
  have hsaved : ∀ m, (s.act a).timeline.isLive m = true →
      w.isLive m = true ∧ s.pass.scheduler.surface? ≠ some m := by
    intro m hm
    rw [hact, hlive] at hm
    exact (isLive_detach _ _ m).mp hm
  refine ⟨⟨?_, ?_, ?_⟩, ?_, ?_, ?_, ?_, ?_, ?_, ?_⟩
  · intro t ht
    have hafter : (s.act a).timeline.isLive n = (s.pass.scheduler.detach w).2.isLive n := by
      rw [hact]
      exact hlive n
    rw [hact] at ht
    simp only [htasks, List.mem_append, List.mem_ite_nil_right, List.mem_singleton] at ht
    rcases ht with hold | ⟨⟨hphase, hnlive⟩, rfl⟩
    · exact Or.inl ⟨t, hwtasks ▸ hold, rfl, rfl, rfl, fun _ => rfl⟩
    · refine Or.inr ⟨?_, .timer hn hphase (hafter.trans hnlive)⟩
      rw [hact]
      simp only [hscheduler]
  · intro t ht due ha htlive
    left
    rw [hact]
    simp only [htasks]
    exact List.mem_append_left _ (hwtasks ▸ ht)
  · left
    rw [hact]
    exact hdispatched.trans hwdispatched
  · rw [hact]
    exact hlength ▸ hwlength
  · intro m hm hmlive
    obtain ⟨hmw, hne⟩ := hsaved m hmlive
    exact ⟨hwlive m hm hmw, fun hattached => absurd hattached hne⟩
  · intro hnone
    simp [hn] at hnone
  · intro m hm
    obtain rfl : n = m := by simpa [hn] using hm
    rw [hact]
    exact ⟨by rw [hscheduler], hlength ▸ hnlt⟩
  · intro ha
    exact absurd ha hunmount
  · rw [hact]
    simp only [hscheduler]
  · intro m hm hphase hmlive
    obtain rfl : n = m := by simpa [hn] using hm
    rw [hact, hlive] at hmlive
    rw [hact]
    simp only [htasks, if_pos (And.intro hphase hmlive), hwtasks, List.mem_append,
      List.mem_singleton]
    exact ⟨_, Or.inr rfl, rfl, by rw [hwnow], fun u hu => hu⟩

theorem moved_unmount (s : Session) : s.Moved .unmount (s.act .unmount) := by
  obtain ⟨htasks, -, hdispatched⟩ := s.pass.scheduler.detach_tasks s.timeline
  have hlive : ∀ n, (s.act .unmount).timeline.isLive n = true ↔
      s.timeline.isLive n = true ∧ s.pass.scheduler.surface? ≠ some n :=
    isLive_detach s.pass.scheduler s.timeline
  refine ⟨served_of_tasks_eq htasks hdispatched, ?_, ?_, ?_, ?_, fun _ => rfl, rfl, ?_⟩
  · exact (s.pass.scheduler.still_detach s.timeline).surfaces_le
  · intro n _ hn
    obtain ⟨hold, hne⟩ := (hlive n).mp hn
    exact ⟨hold, fun hattached => absurd hattached hne⟩
  · intro _ hne
    exact absurd rfl hne
  · intro n hn
    simp [mounts?] at hn
  · intro n hn
    simp [mounts?] at hn

theorem moved_tearDown (s : Session) (m : Nat) : s.Moved (.tearDown m) (s.act (.tearDown m)) := by
  have hlive : ∀ n, (s.act (.tearDown m)).timeline.isLive n = true ↔
      s.timeline.isLive n = true ∧ n ≠ m := Timeline.isLive_tearDown m
  refine ⟨served_of_tasks_eq rfl rfl, ?_, ?_, fun _ _ => rfl, ?_, by simp, rfl, ?_⟩
  · exact (s.timeline.still_tearDown m).surfaces_le
  · intro n _ hn
    obtain ⟨hold, hne⟩ := (hlive n).mp hn
    exact ⟨hold, fun _ => ⟨rfl, by simp, by simpa using Ne.symm hne⟩⟩
  · intro n hn
    simp [mounts?] at hn
  · intro n hn
    simp [mounts?] at hn

theorem moved_aside (s : Session) (x : Aside) : s.Moved (.aside x) (s.act (.aside x)) := by
  obtain ⟨hsurfaces, htasks, -, hdispatched⟩ := s.aside_timeline x
  exact moved_beside (fun _ => ⟨rfl, by simp, by simp⟩) (by rw [act, (s.aside_host x).1]) hsurfaces
    htasks hdispatched

theorem moved (h : s.pass.scheduler.Orderly s.timeline) (a : Act) : s.Moved a (s.act a) := by
  cases hc : s.change? a with
  | some c =>
      rw [act_of_change? hc]
      exact moved_cycle h hc
  | none =>
      cases hm : s.mounts? a with
      | some n => exact moved_mount hm
      | none =>
          cases a with
          | edit e note =>
              rw [act_edit_of_change?_none hc]
              exact moved_beside (fun _ => ⟨hm, by simp, by simp⟩) rfl rfl rfl rfl
          | idle note => simp [change?] at hc
          | deliver => simp [change?] at hc
          | mount => simp [mounts?] at hm
          | remount n =>
              have hn : ¬ n < s.timeline.surfaces.length := by simpa [mounts?] using hm
              rw [act_remount_of_not_lt hn]
              exact moved_beside (fun _ => ⟨hm, by simp, by simp⟩) rfl rfl rfl rfl
          | unmount => exact s.moved_unmount
          | tearDown m => exact s.moved_tearDown m
          | wake id => exact moved_wake h id
          | aside x => exact s.moved_aside x

end Session

end Highlight
