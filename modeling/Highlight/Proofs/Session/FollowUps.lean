import Highlight.Proofs.Session.Endings
import Highlight.Proofs.Session.Handover

/-!
# Follow-ups are neither lost nor doubled

Every act of a session keeps its ledger in order, so the ledger is in order after every run.  From
that comes what a host may rely on: there is one follow-up at a time, it ends when all its loads are
over or when its surface is gone, and no load is followed up twice.
-/

namespace Highlight

theorem Pass.still_mount (p : Pass) (w : Timeline) (n : Nat) : w.Still (p.mount w n).2 := by
  have hdetach := p.scheduler.still_detach w
  unfold mount
  simp only
  split
  · exact hdetach
  · exact hdetach.trans (Scheduler.still_scheduleDeferred _ _)

namespace Session

variable {s : Session} {l : Ledger}

def InOrder (s : Session) (l : Ledger) : Prop := Books s.pass.scheduler s.timeline l

theorem inOrder_opened {depot : Depot} (h : depot.registry.Reachable) (settings : Settings)
    (doc : Document) : (opened depot settings doc).InOrder {} where
  orderly := (wakeful_opened depot settings doc).orderly
  sound := h.sound
  good := by simp
  tasks_nodup := by simp
  booked := by simp [opened, Session.start, Timeline.addSurface]
  apart := by simp
  handed := by simp
  requests := by simp [opened, Session.start, Timeline.addSurface]

theorem InOrder.record_still (h : s.InOrder l) {a : Act} (hs : s.timeline.Still (s.act a).timeline)
    (hsound : (s.act a).timeline.registry.Sound) (hnone : s.handsOver a = []) :
    (s.act a).InOrder (s.record l a) := by
  have horderly := orderly_act h.orderly a
  rw [record, hnone, h.next_still hs horderly.numbered]
  exact h.still hs horderly hsound

theorem InOrder.recompute (h : s.InOrder l) {a : Act} {c : Change} (hc : s.change? a = some c)
    (hrecompute : s.pass.phase.decide (c.facts s.pass.engine.scanner) ≠ .remap) :
    (s.act a).InOrder (s.record l a) := by
  obtain ⟨hturns, hloading, -⟩ :=
    s.pass.engine.recompute_waits s.timeline.registry s.timeline.now c.doc
  obtain ⟨hscheduler, htimeline⟩ := s.pass.recompute_followUp s.timeline c.doc
  have hgiven : s.handsOver a =
      (s.pass.engine.recompute s.timeline.registry s.timeline.now c.doc).1.pending := by
    unfold handsOver
    simp only [hc]
    split
    · exact absurd ‹_› hrecompute
    · rfl
  have hstill : s.timeline.Still (s.timeline.setRegistry
      (s.pass.engine.recompute s.timeline.registry s.timeline.now c.doc).2.2) :=
    Timeline.still_of_registry rfl rfl rfl rfl (fun _ hx => hturns.isFinished hx) hturns.nextId_le
  have hset := h.still hstill (h.orderly.congr rfl rfl rfl) (hturns.sound h.sound)
  have hbooks := hset.followUp fun x hx => ⟨_, hloading x hx⟩
  rw [record, hgiven, InOrder, act_of_change? hc, cycle_of_recompute hrecompute]
  simp only [hscheduler, htimeline]
  exact hbooks

theorem InOrder.act (h : s.InOrder l) (a : Act) : (s.act a).InOrder (s.record l a) := by
  cases hc : s.change? a with
  | some c =>
      by_cases hremap : s.pass.phase.decide (c.facts s.pass.engine.scanner) = .remap
      · have hsame : (s.act a).timeline = s.timeline := by
          rw [act_of_change? hc, cycle_of_remap hremap]
        refine h.record_still ?_ ?_ ?_
        · rw [hsame]
          exact .refl _
        · rw [hsame]
          exact h.sound
        · simp [handsOver, hc, hremap]
      · exact h.recompute hc hremap
  | none =>
      have hnone : s.handsOver a = [] := by
        unfold handsOver
        rw [hc]
      have hsound : (s.act a).timeline.registry.Sound := by
        rcases (act_of_change?_none hc).2.2.2 with t | ⟨_, _, _, t⟩
        · exact t.sound h.sound
        · exact t.sound h.sound
      cases a with
      | edit e note =>
          have hsame := act_edit_of_change?_none hc
          refine h.record_still ?_ hsound hnone
          rw [hsame]
          exact .refl _
      | idle note => simp [change?] at hc
      | deliver => simp [change?] at hc
      | mount =>
          have hmount := s.pass.still_mount s.timeline.addSurface.2 s.timeline.addSurface.1
          exact h.record_still (s.timeline.still_addSurface.trans hmount) hsound hnone
      | remount n =>
          refine h.record_still ?_ hsound hnone
          by_cases hn : n < s.timeline.surfaces.length
          · rw [act_remount_of_lt hn]
            exact s.pass.still_mount _ _
          · rw [act_remount_of_not_lt hn]
            exact .refl _
      | unmount => exact h.record_still (Scheduler.still_detach _ _) hsound hnone
      | tearDown n => exact h.record_still (Timeline.still_tearDown _ n) hsound hnone
      | wake id =>
          rw [record, hnone]
          exact h.pollTask id _
      | aside x =>
          refine h.record_still ?_ hsound hnone
          obtain ⟨hsurfaces, htasks, hnext, hdispatched⟩ := s.aside_timeline x
          rcases s.aside_turn x with t | ⟨_, _, _, t⟩
          · exact Timeline.still_of_registry hsurfaces htasks hnext hdispatched
              (fun _ hx => t.isFinished hx) t.nextId_le
          · exact Timeline.still_of_registry hsurfaces htasks hnext hdispatched
              (fun _ hx => t.isFinished hx) t.nextId_le

theorem InOrder.run (h : s.InOrder l) (acts : List Act) :
    (s.run acts).InOrder (s.ledger l acts) := by
  induction acts generalizing s l with
  | nil => exact h
  | cons a as ih => exact ih (h.act a)

/-! ### What a host may rely on -/

/-- A living surface has at most one follow-up under way; a follow-up ends when all loads handed
over since its batch was opened are over, or when its surface is gone; every load that is handed
over for a living surface is in one batch of that surface, and no load is in two that were answered.
So there are no more requests of follow-ups than loads that were started. -/
theorem follow_ups_neither_lost_nor_doubled (depot : Depot) (hdepot : depot.registry.Reachable)
    (settings : Settings) (doc : Document) (acts : List Act) :
    let s := (opened depot settings doc).run acts
    let l := (opened depot settings doc).ledger {} acts
    (∀ n, s.timeline.isLive n = true →
      (s.timeline.tasks.filter fun t =>
        t.awaited.request == .grammarLoaded && t.surface == n).length ≤ 1) ∧
    (∀ b ∈ l.batches, b.standing = .answered → ∀ x ∈ b.since,
      s.timeline.registry.isFinished x = true ∧
        ∀ tag failures, s.timeline.registry.slots.get? tag ≠ some (.loading failures x.id)) ∧
    (∀ entry ∈ l.handed, ∃ b ∈ l.batches, (b.surface = entry.1 ∧ entry.2 ∈ b.loads) ∧
      ∀ b' ∈ l.batches, b'.surface = entry.1 → entry.2 ∈ b'.loads → b' = b) ∧
    (∀ b ∈ l.batches, ∀ b' ∈ l.batches, b.standing = .answered → b'.standing = .answered → b ≠ b' →
      ∀ x ∈ b.loads, ∀ y ∈ b'.loads, x.id ≠ y.id) ∧
    (∀ b ∈ l.batches,
      (b.standing = .waiting ↔
        ∃ t ∈ s.timeline.tasks, t.id = b.task ∧ t.awaited.request = .grammarLoaded) ∧
      (b.standing = .dropped → s.timeline.isLive b.surface = false)) ∧
    ((s.timeline.dispatched.filter (·.request == .grammarLoaded)).map Dispatched.surface).Perm
      ((l.batches.filter (·.standing == .answered)).map Batch.surface) ∧
    (s.timeline.dispatched.filter (·.request == .grammarLoaded)).length ≤
      s.timeline.registry.nextId - 1 := by
  intro s l
  have h : Books s.pass.scheduler s.timeline l := (inOrder_opened hdepot settings doc).run acts
  refine ⟨?_, ?_, ?_, ?_, ?_, h.requests, ?_⟩
  · exact fun n hlive => h.orderly.length_waiters_le hlive
  · intro b hb ha x hx
    rw [(h.good b hb).since_eq (Or.inl ha)] at hx
    have hover := (h.good b hb).answered ha x hx
    exact ⟨hover, h.sound.not_loading hover⟩
  · intro entry hentry
    obtain ⟨b, hb, hsurface, hmem⟩ := h.handed entry hentry
    refine ⟨b, hb, ⟨hsurface, hmem⟩, ?_⟩
    intro b' hb' hsurface' hmem'
    by_cases htask : b'.task = b.task
    · exact h.eq_of_task_eq hb' hb htask
    · exact absurd rfl
        (h.apart b' hb' b hb htask (Or.inl (hsurface'.trans hsurface.symm)) _ hmem' _ hmem)
  · intro b hb b' hb' ha ha' hne
    have htask : b.task ≠ b'.task := fun heq => hne (h.eq_of_task_eq hb hb' heq)
    exact h.apart b hb b' hb' htask (Or.inr ⟨Or.inl ha, Or.inl ha'⟩)
  · exact fun b hb => ⟨h.waiting_iff hb, (h.good b hb).dropped⟩
  · have hlength := h.requests.length_eq
    rw [List.length_map, List.length_map] at hlength
    exact hlength ▸ h.length_answered_le

/-- Two blocks wait for a grammar each, and the second grammar is asked for again while the
follow-up waits: the load joins the batch, and one request is made when both loads are over. -/
theorem one_follow_up_for_two_loads :
    let loader : Loader := ⟨fun tag => tag == "x" || tag == "y", fun _ => .ok .whole⟩
    let depot : Depot := { registry := { loaders := [loader] } }
    let doc : Document :=
      ⟨[{ id := 1, language := some "x", text := "ab" },
        { id := 2, language := some "y", text := "cd" }]⟩
    let acts : List Act :=
      [.mount, .idle {}, .aside (.registry (.finish 1 (.ok .whole))),
        .idle { externalSync := true }, .wake 1, .aside (.registry (.finish 2 (.ok .whole))),
        .wake 1]
    let s := (opened depot {} doc).run acts
    let l := (opened depot {} doc).ledger {} acts
    depot.registry.Reachable ∧
      l.batches.map (fun b => (b.standing, b.since.map Load.id)) = [(.answered, [1, 2, 2])] ∧
      (∀ b ∈ l.batches, b.standing = .answered → ∀ x ∈ b.since,
        s.timeline.registry.isFinished x = true) ∧
      (s.timeline.dispatched.filter (·.request == .grammarLoaded)).length = 1 ∧
      (s.timeline.dispatched.filter (·.request == .grammarLoaded)).length ≤
        s.timeline.registry.nextId - 1 := by
  intro loader depot doc acts s l
  have hreachable : depot.registry.Reachable := ⟨[loader], {}, [], rfl⟩
  obtain ⟨-, hover, -, -, -, -, hle⟩ :=
    follow_ups_neither_lost_nor_doubled depot hreachable {} doc acts
  refine ⟨hreachable, by decide +kernel, ?_, by decide +kernel, hle⟩
  exact fun b hb ha x hx => (hover b hb ha x hx).1

end Session

end Highlight
