import Highlight.Proofs.Session.Timers
import Highlight.Proofs.Surface.Settling
import Highlight.Scenario.Sessions

/-!
# Scenes as runs of acts

A scenario lets tasks settle and the clock move on between the steps of its host.  Taken apart into
the moves of single tasks, all this is a list of acts, so what holds after every run of acts holds
in every state that a scenario comes to.  Its clock is timely: before it passes the time of a timer,
the task of that timer has gone on.
-/

namespace Highlight

namespace Session

variable {s s' s'' : Session}

/-- A session that came about by acts: its tasks and loads are told apart by their numbers. -/
structure Grown (s : Session) : Prop where
  orderly : s.pass.scheduler.Orderly s.timeline
  reachable : s.timeline.registry.Reachable

theorem Grown.distinct (h : s.Grown) : s.timeline.Distinct := by
  refine ⟨?_, h.orderly.numbered.ids_nodup⟩
  obtain ⟨loaders, retry, es, hregistry⟩ := h.reachable
  rw [hregistry]
  exact (Registry.manned_after loaders retry es).task_ids

theorem reachable_aside (h : s.timeline.registry.Reachable) (x : Aside) :
    (s.aside x).timeline.registry.Reachable := by
  cases x with
  | registry e => exact h.occur s.timeline.now e
  | poll load =>
      have hpoll : (s.aside (.poll load)).timeline.registry =
          s.timeline.registry.after (s.timeline.depot.history [.poll load]) :=
        s.timeline.depot.registry_after [.poll load]
      rw [hpoll]
      exact h.after _
  | take =>
      simp only [aside, take]
      split <;> exact h
  | _ => exact h

theorem reachable_act (h : s.timeline.registry.Reachable) (a : Act) :
    (s.act a).timeline.registry.Reachable := by
  rcases s.depot_act a with hsame | ⟨doc, htimeline⟩ | ⟨x, rfl⟩
  · rw [Timeline.registry, hsame]
    exact h
  · rw [htimeline, pass_recompute_registry]
    exact Engine.reachable_recompute _ _ _ h
  · exact reachable_aside h x

theorem Grown.act (h : s.Grown) (a : Act) : (s.act a).Grown :=
  ⟨orderly_act h.orderly a, reachable_act h.reachable a⟩

theorem grown_opened {depot : Depot} (h : depot.registry.Reachable) (settings : Settings)
    (doc : Document) : (opened depot settings doc).Grown :=
  ⟨(wakeful_opened depot settings doc).orderly, h⟩

/-- Acts on a timely clock lead from one state of a session to another. -/
def LeadsTo (s s' : Session) : Prop := ∃ acts, s.Along Timely acts ∧ s' = s.run acts

theorem LeadsTo.refl (s : Session) : s.LeadsTo s := ⟨[], trivial, rfl⟩

theorem LeadsTo.trans (h : s.LeadsTo s') (h' : s'.LeadsTo s'') : s.LeadsTo s'' := by
  obtain ⟨as, has, rfl⟩ := h
  obtain ⟨bs, hbs, rfl⟩ := h'
  exact ⟨as ++ bs, (along_append as bs).mpr ⟨has, hbs⟩, (run_append as bs).symm⟩

theorem leadsTo_act (a : Act) (h : s.Timely a) : s.LeadsTo (s.act a) := ⟨[a], ⟨h, trivial⟩, rfl⟩

theorem LeadsTo.grown (h : s.LeadsTo s') (hs : s.Grown) : s'.Grown := by
  obtain ⟨acts, htimely, rfl⟩ := h
  exact htimely.induction (fun _ a hgrown _ => hgrown.act a) hs

/-! ### Time -/

/-- When no task can go on, the clock can move to the next awaited time. -/
theorem leadsTo_setClock {time : Nat} (hstill : s.timeline.step? = none)
    (hle : s.timeline.now ≤ time) (hnext : ∀ due ∈ s.timeline.wakeTimes, time ≤ due) :
    s.LeadsTo { s with timeline := s.timeline.setClock time } := by
  have hsum : s.timeline.now + (time - s.timeline.now) = time := Nat.add_sub_cancel' hle
  have htimely : s.Timely (.aside (.elapse (time - s.timeline.now))) := by
    intro t ht due hdue hlive
    rw [hsum]
    exact hnext due (Timeline.due_mem_wakeTimes hstill ht hdue hlive)
  have hact := leadsTo_act _ htimely
  simp only [act, aside, hsum] at hact
  exact hact

theorem leadsTo_tick {w : Timeline} (h : s.timeline.Tick w) :
    s.LeadsTo { s with timeline := w } := by
  cases h with
  | step hstep =>
      rcases Timeline.step?_cases hstep with ⟨t, -, -, rfl⟩ | ⟨t, -, -, rfl⟩
      · exact leadsTo_act (.aside (.poll t.load.id)) trivial
      · exact leadsTo_act (.wake t.id) trivial
  | clock time hstill hle hnext => exact leadsTo_setClock hstill hle hnext

theorem leadsTo_passes {w : Timeline} (h : s.timeline.Passes w) :
    s.LeadsTo { s with timeline := w } := by
  induction h with
  | refl => exact .refl s
  | tail _ htick ih => exact ih.trans (leadsTo_tick htick)

theorem leadsTo_settle (s : Session) : s.LeadsTo { s with timeline := s.timeline.settle } :=
  leadsTo_passes (Timeline.passes_settleWithin s.timeline.work s.timeline)

theorem Grown.leadsTo_runUntil (h : s.Grown) (goal : Timeline → Bool) (ms : Nat) :
    s.LeadsTo { s with timeline := s.timeline.runUntil goal ms } :=
  leadsTo_passes (h.distinct.passes_runUntil goal ms)

theorem Grown.leadsTo_next (h : s.Grown) (ms : Nat) : s.LeadsTo (s.next ms).2 :=
  (h.leadsTo_runUntil Timeline.hasRequest ms).trans (leadsTo_act (.aside .take) trivial)

end Session

/-! ### Steps -/

namespace Scenario

open Session

theorem leadsTo_load {s : Session} (h : s.Grown) (handles : List Load) (step : LoadStep) :
    s.LeadsTo { s with timeline := (Bench.run ⟨s.timeline, handles⟩ step).2.timeline } := by
  cases step with
  | ensure language =>
      rw [Bench.timeline_ensure]
      exact leadsTo_act (.aside (.registry (.ensure language))) trivial
  | finished handle =>
      simp only [Bench.run]
      cases Bench.load? ⟨s.timeline, handles⟩ handle with
      | none => exact .refl s
      | some l => exact h.leadsTo_runUntil (fun w => w.registry.isFinished l) Bench.patience
  | isFinished handle =>
      simp only [Bench.run]
      cases Bench.load? ⟨s.timeline, handles⟩ handle <;> exact .refl s
  | gate language isOpen => exact leadsTo_act (.aside (.gate language isOpen)) trivial
  | wait ms => exact h.leadsTo_runUntil (fun _ => false) ms
  | calls => exact .refl s
  | status language => exact .refl s
  | register language source =>
      simp only [Bench.run]
      cases source.load? with
      | none => exact .refl s
      | some result =>
          cases result with
          | error e => exact .refl s
          | ok g => exact leadsTo_act (.aside (.registry (.register language g))) trivial

theorem leadsTo_run {b : SessionBench} (h : b.session.Grown) (step : SessionStep) :
    b.session.LeadsTo (b.run step).2.session := by
  cases step with
  | load step => exact leadsTo_load h b.handles step
  | edit e note =>
      have hact := leadsTo_act (s := b.session) (.edit e note) trivial
      simp only [Session.act] at hact
      simp only [SessionBench.run]
      cases he : b.session.edit e note with
      | error err => exact .refl b.session
      | ok session =>
          rw [he] at hact
          exact hact
  | cycle note => exact leadsTo_act (.idle note) trivial
  | mount => exact leadsTo_act .mount trivial
  | unmount => exact leadsTo_act .unmount trivial
  | tearDown => exact leadsTo_act (.tearDown b.session.surface) trivial
  | close => exact leadsTo_act (.aside .close) trivial
  | next ms => exact h.leadsTo_next ms
  | pump ms =>
      have hnext := h.leadsTo_next ms
      simp only [SessionBench.run]
      split
      · exact hnext.trans (leadsTo_act .deliver trivial)
      · exact hnext
  | deliver => exact leadsTo_act .deliver trivial

theorem leadsTo_of_mem_runSession {b : SessionBench} (hb : b.session.Grown)
    {steps : List SessionStep} {report : SessionReport} (h : report ∈ runSession b steps) :
    b.session.LeadsTo report.session := by
  induction steps generalizing b with
  | nil => simp [runSession] at h
  | cons step steps ih =>
      have hsettled : b.session.LeadsTo (b.run step).2.settle.session :=
        (leadsTo_run hb step).trans (leadsTo_settle _)
      rcases List.mem_cons.mp h with rfl | hrest
      · exact hsettled
      · exact hsettled.trans (ih (hsettled.grown hb) hrest)

theorem Setup.reachable_registry (s : Setup) : s.registry.Reachable :=
  ⟨s.loaders.map LoaderNote.loader, s.retry, s.inTime_timeline.registry_eq⟩

/-- Every state that a scenario comes to is a state of a session after acts on a timely clock, with
a registry at its start that events can make. -/
theorem scene_eq_run (setup : Setup) (settings : Settings) (doc : Document)
    (steps : List SessionStep) {report : SessionReport}
    (h : report ∈ runSession ⟨.start setup.timeline (.ofSettings settings) doc, []⟩ steps) :
    let start := opened setup.timeline.depot settings doc
    setup.timeline.depot.registry.Reachable ∧
      ∃ acts, start.Along Timely acts ∧ report.session = start.run acts :=
  ⟨setup.reachable_registry,
    leadsTo_of_mem_runSession (grown_opened setup.reachable_registry settings doc) h⟩

end Scenario

end Highlight
