import Highlight.Proofs.Registry.Polling
import Highlight.Proofs.Registry.Sound
import Highlight.Proofs.Surface.Waiters
import Highlight.Session

/-!
# Acts of a session

A session goes on by acts, one at a time and in any order: the host edits, runs cycles, mounts and
unmounts; surfaces are torn down; tasks and loads go on; time passes.  `Session.run` takes a list of
acts, and what one act leaves alone is said here once for all.
-/

namespace Highlight

theorem Phase.decide_eq_remap_iff (phase : Phase) (f : ChangeFacts) :
    phase.decide f = .remap ↔
      f.externalSync = false ∧ ¬ (f.docChanged = true ∧ f.touchesRegion = true) ∧
        phase = .highlighted := by
  unfold decide
  cases f.externalSync with
  | true => simp
  | false => cases f.docChanged <;> cases f.touchesRegion <;> cases phase <;> simp

theorem Phase.afterPass_eq_highlighted_iff (incomplete : Bool) :
    afterPass incomplete = .highlighted ↔ incomplete = false := by
  cases incomplete <;> simp [afterPass]

/-- What goes on beside the host's cycles and its surfaces. -/
inductive Aside where
  | registry (e : RegistryEvent)
  /-- The gate of a tag is opened or closed. -/
  | gate (language : String) (isOpen : Bool)
  | poll (load : Nat)
  | elapse (ms : Nat)
  | take
  | close

inductive Act where
  | edit (e : Edit) (note : CycleNote)
  | idle (note : CycleNote)
  /-- A request is delivered, whether or not one was made. -/
  | deliver
  | mount
  /-- A surface that is there already is mounted, perhaps again. -/
  | remount (surface : Nat)
  | unmount
  | tearDown (surface : Nat)
  | wake (task : Nat)
  | aside (a : Aside)

namespace Session

/-- A session of a host that opens a document. -/
def opened (depot : Depot) (settings : Settings) (doc : Document) : Session :=
  Session.start { depot } (Pass.ofSettings settings) doc

def aside (s : Session) : Aside → Session
  | .registry e =>
      { s with
        timeline := s.timeline.setRegistry (s.timeline.registry.occur s.timeline.now e) }
  | .gate language isOpen =>
      { s with
        timeline := { s.timeline with depot := s.timeline.depot.setGate language isOpen } }
  | .poll load => { s with timeline := s.timeline.pollLoad load }
  | .elapse ms => { s with timeline := s.timeline.setClock (s.timeline.now + ms) }
  | .take => s.take.2
  | .close => s.close

/-- Mounts a surface that is there already; there is nothing to mount under other numbers. -/
def remount (s : Session) (surface : Nat) : Session :=
  if surface < s.timeline.surfaces.length then
    { s with
      surface
      pass := (s.pass.mount s.timeline surface).1
      timeline := (s.pass.mount s.timeline surface).2 }
  else s

/-- The session after an act.  An edit that is refused changes nothing. -/
def act (s : Session) : Act → Session
  | .edit e note =>
      match s.edit e note with
      | .ok s' => s'
      | .error _ => s
  | .idle note => s.idle note
  | .deliver => s.deliver
  | .mount => s.mount
  | .remount surface => s.remount surface
  | .unmount => s.unmount
  | .tearDown surface => { s with timeline := s.timeline.tearDown surface }
  | .wake task => { s with timeline := s.timeline.pollTask task }
  | .aside a => s.aside a

def run (s : Session) (acts : List Act) : Session := acts.foldl act s

/-- The change cycle that an act runs, if it runs one. -/
def change? (s : Session) : Act → Option Change
  | .edit e note =>
      match s.doc.edit e with
      | .ok (doc, c) => some (change note s.doc doc true (some c))
      | .error _ => none
  | .idle note => some (change note s.doc s.doc false none)
  | .deliver => some (.requested s.doc)
  | _ => none

/-- Each act of a run satisfies a condition on the session that it happens in. -/
def Along (P : Session → Act → Prop) (s : Session) : List Act → Prop
  | [] => True
  | a :: as => P s a ∧ (s.act a).Along P as

variable {s : Session}

@[simp] theorem run_nil : s.run [] = s := rfl

@[simp] theorem run_cons (a : Act) (as : List Act) : s.run (a :: as) = (s.act a).run as := rfl

theorem run_append (as bs : List Act) : s.run (as ++ bs) = (s.run as).run bs :=
  List.foldl_append

theorem along_append {P : Session → Act → Prop} (as bs : List Act) :
    s.Along P (as ++ bs) ↔ s.Along P as ∧ (s.run as).Along P bs := by
  induction as generalizing s with
  | nil => simp [Along]
  | cons a as ih => simp [Along, ih, and_assoc]

theorem Along.and {P Q : Session → Act → Prop} {acts : List Act} (hp : s.Along P acts)
    (hq : s.Along Q acts) : s.Along (fun s a => P s a ∧ Q s a) acts := by
  induction acts generalizing s with
  | nil => exact trivial
  | cons a as ih => exact ⟨⟨hp.1, hq.1⟩, ih hp.2 hq.2⟩

/-- What every act preserves holds after every run. -/
theorem Along.induction {P : Session → Act → Prop} {I : Session → Prop}
    (hstep : ∀ s a, I s → P s a → I (s.act a)) {acts : List Act} (h : s.Along P acts) (hs : I s) :
    I (s.run acts) := by
  induction acts generalizing s with
  | nil => exact hs
  | cons a as ih => exact ih h.2 (hstep s a hs h.1)

/-! ### Cycles -/

/-- An act that runs a cycle does nothing else. -/
theorem act_of_change? {a : Act} {c : Change} (h : s.change? a = some c) : s.act a = s.cycle c := by
  cases a with
  | edit e note =>
      cases he : s.doc.edit e with
      | error err => simp [change?, he] at h
      | ok result =>
          obtain ⟨doc, m⟩ := result
          obtain rfl : change note s.doc doc true (some m) = c := by simpa [change?, he] using h
          simp [act, Session.edit, he]
  | idle note =>
      obtain rfl : change note s.doc s.doc false none = c := by simpa [change?] using h
      rfl
  | deliver =>
      obtain rfl : Change.requested s.doc = c := by simpa [change?] using h
      rfl
  | _ => simp [change?] at h

/-- A cycle has an edit behind it, or the document stays as it is. -/
theorem change?_cases {a : Act} {c : Change} (h : s.change? a = some c) :
    (c.mapping = none ∧ c.doc = s.doc) ∨
      ∃ e note doc m, a = .edit e note ∧ s.doc.edit e = .ok (doc, m) ∧
        c = change note s.doc doc true (some m) := by
  cases a with
  | edit e note =>
      cases he : s.doc.edit e with
      | error err => simp [change?, he] at h
      | ok result =>
          obtain ⟨doc, m⟩ := result
          obtain rfl : change note s.doc doc true (some m) = c := by simpa [change?, he] using h
          exact Or.inr ⟨e, note, doc, m, rfl, he, rfl⟩
  | idle note =>
      obtain rfl : change note s.doc s.doc false none = c := by simpa [change?] using h
      exact Or.inl ⟨by simp [change], rfl⟩
  | deliver =>
      obtain rfl : Change.requested s.doc = c := by simpa [change?] using h
      exact Or.inl ⟨rfl, rfl⟩
  | _ => simp [change?] at h

theorem cycle_of_remap {c : Change}
    (h : s.pass.phase.decide (c.facts s.pass.engine.scanner) = .remap) :
    s.cycle c =
      { s with
        doc := c.doc
        decorations := match c.mapping with
          | some m => s.decorations.map m
          | none => s.decorations } := by
  unfold cycle Pass.apply
  cases hd : s.pass.phase.decide (c.facts s.pass.engine.scanner) with
  | recompute reason => simp [hd] at h
  | remap => rfl

theorem cycle_of_recompute {c : Change}
    (h : s.pass.phase.decide (c.facts s.pass.engine.scanner) ≠ .remap) :
    s.cycle c =
      { s with
        pass := (s.pass.recompute s.timeline c.doc).1
        timeline := (s.pass.recompute s.timeline c.doc).2.1
        decorations := (s.pass.recompute s.timeline c.doc).2.2
        doc := c.doc } := by
  unfold cycle Pass.apply
  cases hd : s.pass.phase.decide (c.facts s.pass.engine.scanner) with
  | recompute reason => rfl
  | remap => exact absurd hd h

theorem act_edit_of_change?_none {e : Edit} {note : CycleNote}
    (h : s.change? (.edit e note) = none) : s.act (.edit e note) = s := by
  cases he : s.doc.edit e with
  | error err => simp [act, Session.edit, he]
  | ok result => simp [change?, he] at h

theorem act_remount_of_lt {n : Nat} (h : n < s.timeline.surfaces.length) :
    s.act (.remount n) =
      { s with
        surface := n
        pass := (s.pass.mount s.timeline n).1
        timeline := (s.pass.mount s.timeline n).2 } := if_pos h

theorem act_remount_of_not_lt {n : Nat} (h : ¬ n < s.timeline.surfaces.length) :
    s.act (.remount n) = s := if_neg h

/-! ### What goes on beside the host -/

theorem aside_host (s : Session) (a : Aside) : (s.aside a).pass = s.pass ∧ (s.aside a).doc = s.doc ∧
    (s.aside a).decorations = s.decorations := by
  cases a with
  | take =>
      simp only [aside, take]
      split <;> exact ⟨rfl, rfl, rfl⟩
  | _ => exact ⟨rfl, rfl, rfl⟩

theorem aside_timeline (s : Session) (a : Aside) :
    (s.aside a).timeline.surfaces = s.timeline.surfaces ∧
      (s.aside a).timeline.tasks = s.timeline.tasks ∧
      (s.aside a).timeline.nextTask = s.timeline.nextTask ∧
      (s.aside a).timeline.dispatched = s.timeline.dispatched := by
  cases a with
  | take =>
      simp only [aside, take]
      split <;> exact ⟨rfl, rfl, rfl, rfl⟩
  | _ => exact ⟨rfl, rfl, rfl, rfl⟩

/-- Only a registration by hand can make the registry adopt a grammar. -/
theorem aside_turn (s : Session) (a : Aside) :
    Registry.Turn s.timeline.registry none (s.aside a).timeline.registry ∨
      ∃ language g, a = .registry (.register language g) ∧
        Registry.Turn s.timeline.registry (some language) (s.aside a).timeline.registry := by
  cases a with
  | registry e =>
      rcases s.timeline.registry.occur_turn s.timeline.now e with t | ⟨language, g, rfl, t⟩
      · exact Or.inl t
      · exact Or.inr ⟨language, g, rfl, t⟩
  | poll load => exact Or.inl (s.timeline.depot.polled load).turn
  | take =>
      left
      simp only [aside, take]
      split <;> exact .idle s.timeline.registry.tasks
  | _ => exact Or.inl (.idle s.timeline.registry.tasks)

/-! ### Surfaces leave the loads alone -/

theorem detach_depot (sch : Scheduler) (w : Timeline) : (sch.detach w).2.depot = w.depot := by
  unfold Scheduler.detach
  cases sch.surface? <;> rfl

theorem followUp_depot (sch : Scheduler) (w : Timeline) (loads : List Load) :
    (sch.followUp w loads).2.depot = w.depot := by
  unfold Scheduler.followUp
  cases loads.isEmpty with
  | true => rfl
  | false =>
      cases sch.liveSurface? w with
      | none => rfl
      | some surface => cases sch.openBatch? w <;> rfl

theorem pass_recompute_registry (p : Pass) (w : Timeline) (doc : Document) :
    (p.recompute w doc).2.1.registry = (p.engine.recompute w.registry w.now doc).2.2 := by
  unfold Pass.recompute
  simp only
  split
  · exact congrArg Depot.registry (followUp_depot _ _ _)
  · rfl

theorem pass_mount_frame (p : Pass) (w : Timeline) (surface : Nat) :
    (p.mount w surface).1.engine = p.engine ∧ (p.mount w surface).1.phase = p.phase ∧
      (p.mount w surface).2.depot = w.depot := by
  refine ⟨rfl, rfl, ?_⟩
  have hattach : (p.scheduler.attach w surface).2.depot = w.depot := detach_depot p.scheduler w
  unfold Pass.mount
  simp only
  split
  · exact hattach
  · unfold Scheduler.scheduleDeferred
    cases (p.scheduler.attach w surface).1.liveSurface? (p.scheduler.attach w surface).2 <;>
      exact hattach

/-- An act without a cycle leaves the host's document, its decorations and the engine as they are,
and is a turn of the registry. -/
theorem act_of_change?_none {a : Act} (h : s.change? a = none) :
    ((s.act a).pass.engine = s.pass.engine ∧ (s.act a).pass.phase = s.pass.phase) ∧
      (s.act a).doc = s.doc ∧ (s.act a).decorations = s.decorations ∧
      (Registry.Turn s.timeline.registry none (s.act a).timeline.registry ∨
        ∃ language g, a = .aside (.registry (.register language g)) ∧
          Registry.Turn s.timeline.registry (some language) (s.act a).timeline.registry) := by
  have idle : ∀ {w : Timeline}, w.depot = s.timeline.depot →
      Registry.Turn s.timeline.registry none w.registry := by
    intro w hw
    have hregistry : w.registry = s.timeline.registry := congrArg Depot.registry hw
    rw [hregistry]
    exact .idle s.timeline.registry.tasks
  cases a with
  | edit e note =>
      rw [act_edit_of_change?_none h]
      exact ⟨⟨rfl, rfl⟩, rfl, rfl, Or.inl (idle rfl)⟩
  | idle note => simp [change?] at h
  | deliver => simp [change?] at h
  | mount =>
      obtain ⟨he, hp, hd⟩ := pass_mount_frame s.pass s.timeline.addSurface.2 s.timeline.addSurface.1
      exact ⟨⟨he, hp⟩, rfl, rfl, Or.inl (idle hd)⟩
  | remount surface =>
      obtain ⟨he, hp, hd⟩ := pass_mount_frame s.pass s.timeline surface
      by_cases hn : surface < s.timeline.surfaces.length
      · rw [act_remount_of_lt hn]
        exact ⟨⟨he, hp⟩, rfl, rfl, Or.inl (idle hd)⟩
      · rw [act_remount_of_not_lt hn]
        exact ⟨⟨rfl, rfl⟩, rfl, rfl, Or.inl (idle rfl)⟩
  | unmount =>
      exact ⟨⟨rfl, rfl⟩, rfl, rfl, Or.inl (idle (detach_depot s.pass.scheduler s.timeline))⟩
  | tearDown surface => exact ⟨⟨rfl, rfl⟩, rfl, rfl, Or.inl (idle rfl)⟩
  | wake task => exact ⟨⟨rfl, rfl⟩, rfl, rfl, Or.inl (idle (s.timeline.pollTask_depot task))⟩
  | aside a =>
      obtain ⟨hpass, hdoc, hds⟩ := s.aside_host a
      have hturn := s.aside_turn a
      simp only [act, hpass, hdoc, hds, Act.aside.injEq]
      exact ⟨⟨trivial, trivial⟩, trivial, trivial, hturn⟩

/-- Clock, loads and registry are left alone, unless a pass runs or something goes on beside the
host. -/
theorem depot_act (s : Session) (a : Act) : (s.act a).timeline.depot = s.timeline.depot ∨
    (∃ doc, (s.act a).timeline = (s.pass.recompute s.timeline doc).2.1) ∨ ∃ x, a = .aside x := by
  cases hc : s.change? a with
  | some c =>
      rw [act_of_change? hc]
      by_cases hremap : s.pass.phase.decide (c.facts s.pass.engine.scanner) = .remap
      · rw [cycle_of_remap hremap]
        exact Or.inl rfl
      · rw [cycle_of_recompute hremap]
        exact Or.inr (Or.inl ⟨c.doc, rfl⟩)
  | none =>
      cases a with
      | edit e note =>
          rw [act_edit_of_change?_none hc]
          exact Or.inl rfl
      | idle note => simp [change?] at hc
      | deliver => simp [change?] at hc
      | mount =>
          exact Or.inl (pass_mount_frame s.pass s.timeline.addSurface.2 s.timeline.addSurface.1).2.2
      | remount n =>
          left
          by_cases hn : n < s.timeline.surfaces.length
          · rw [act_remount_of_lt hn]
            exact (pass_mount_frame s.pass s.timeline n).2.2
          · rw [act_remount_of_not_lt hn]
      | unmount => exact Or.inl (detach_depot s.pass.scheduler s.timeline)
      | tearDown surface => exact Or.inl rfl
      | wake task => exact Or.inl (s.timeline.pollTask_depot task)
      | aside x => exact Or.inr (Or.inr ⟨x, rfl⟩)

end Session

end Highlight
