import Highlight.Proofs.Registry.Mirrors
import Highlight.Proofs.Surface.Lapses

/-!
# One tag in two depots

A depot mirrors what another one has of a tag: its registry does, calls for the tag go alike, its
tasks have come as far, and its loader was called at the same times.  A step of another tag keeps
the mirror image as it is, and a step of the tag is a step of the mirror image.  Time may be let
pass for both, since a lapse of the whole depot is one of the tag alone, with the steps of the other
tags left out.
-/

namespace Highlight

def Call.renumber (f : Nat → Nat) (c : Call) : Call := { c with load := c.load.renumber f }

/-- Calls for the tag go alike. -/
structure Supply.Agrees (tag : String) (s s' : Supply) : Prop where
  script_eq : s'.script = s.script
  delays_eq : s'.delays = s.delays
  gate_eq : s'.gates.get? tag = s.gates.get? tag
  calls_eq : s'.calls.get? tag = s.calls.get? tag

namespace Supply.Agrees

variable {tag language : String} {s s' : Supply}

theorem refl (tag : String) (s : Supply) : s.Agrees tag s := ⟨rfl, rfl, rfl, rfl⟩

theorem callCount_eq (h : s.Agrees tag s') : s'.callCount tag = s.callCount tag :=
  congrArg (·.getD 0) h.calls_eq

theorem isOpen_eq (h : s.Agrees tag s') : s'.isOpen tag = s.isOpen tag :=
  congrArg (·.getD true) h.gate_eq

theorem delay_eq (h : s.Agrees tag s') (language : String) :
    s'.delay language = s.delay language := by
  rw [delay, delay, h.delays_eq]

theorem callEnd_eq (h : s.Agrees tag s') (language : String) (number : Nat) :
    s'.callEnd language number = s.callEnd language number := by
  rw [callEnd, callEnd, h.script_eq]

theorem countCall (h : s.Agrees tag s') : (s.countCall tag).Agrees tag (s'.countCall tag) where
  script_eq := h.script_eq
  delays_eq := h.delays_eq
  gate_eq := h.gate_eq
  calls_eq := by simp [Supply.countCall, h.callCount_eq]

theorem countCall_of_ne (h : s.Agrees tag s') (hne : language ≠ tag) :
    (s.countCall language).Agrees tag s' where
  script_eq := h.script_eq
  delays_eq := h.delays_eq
  gate_eq := h.gate_eq
  calls_eq := h.calls_eq.trans (Table.get?_insert_of_ne _ _ (Ne.symm hne)).symm

theorem setGate (h : s.Agrees tag s') (isOpen : Bool) :
    (s.setGate tag isOpen).Agrees tag (s'.setGate tag isOpen) := by
  have hcontains : s'.gates.contains tag = s.gates.contains tag :=
    congrArg Option.isSome h.gate_eq
  unfold Supply.setGate
  rw [hcontains]
  split
  · exact ⟨h.script_eq, h.delays_eq, by simp, h.calls_eq⟩
  · exact h

theorem setGate_of_ne (h : s.Agrees tag s') (hne : language ≠ tag) (isOpen : Bool) :
    (s.setGate language isOpen).Agrees tag s' := by
  unfold Supply.setGate
  split
  · refine ⟨h.script_eq, h.delays_eq, ?_, h.calls_eq⟩
    exact h.gate_eq.trans (Table.get?_insert_of_ne _ _ (Ne.symm hne)).symm
  · exact h

end Supply.Agrees

namespace Depot

variable {d d' e e' : Depot} {tag language : String} {own : Set Nat} {f f₁ : Nat → Nat}
  {t : LoadTask}

/-- A depot that has come about: only the tasks of loads that were started are at a stage. -/
structure Regular (d : Depot) : Prop where
  reachable : d.registry.Reachable
  staged : ∀ i, d.stages.get? i ≠ none → i < d.registry.nextId

theorem Regular.task_ids (h : d.Regular) : (d.registry.tasks.map fun t => t.load.id).Nodup := by
  obtain ⟨loads, hmanned⟩ := h.reachable.manned
  exact hmanned.task_ids

theorem Regular.unstaged (h : d.Regular) : d.stages.get? d.registry.nextId = none :=
  by_contra fun hsome => Nat.lt_irrefl _ (h.staged _ hsome)

theorem Regular.occur (h : d.Regular) (now : Nat) (e : RegistryEvent) :
    Regular { d with registry := d.registry.occur now e } where
  reachable := h.reachable.occur now e
  staged := fun i hi => Nat.lt_of_lt_of_le (h.staged i hi) (d.registry.nextId_le_occur now e)

theorem Regular.advance (h : d.Regular) (ht : t ∈ d.registry.tasks) : (d.advance t).Regular := by
  obtain ⟨loads, hmanned⟩ := h.reachable.manned
  have hstaged : ∀ stage i, (d.stages.insert t.load.id stage).get? i ≠ none →
      i < d.registry.nextId := by
    intro stage i hi
    by_cases heq : i = t.load.id
    · exact heq ▸ hmanned.id_lt (hmanned.task_started t ht)
    · exact h.staged i (by rwa [Table.get?_insert_of_ne _ _ heq] at hi)
  unfold Depot.advance
  cases d.stages.get? t.load.id with
  | none => exact ⟨h.reachable, hstaged _⟩
  | some stage =>
      cases stage with
      | atGate call => exact ⟨h.reachable, hstaged _⟩
      | working call doneAt => exact h.occur d.now (.finish t.load.id _)

/-- The second depot has what the first one has of the tag. -/
structure Mirrors (tag : String) (own : Set Nat) (f : Nat → Nat) (d d' : Depot) : Prop where
  regular : d.Regular
  regular' : d'.Regular
  registry : d.registry.Mirrors tag own f d'.registry
  now_eq : d'.now = d.now
  supply : d.supply.Agrees tag d'.supply
  stage_eq : ∀ i ∈ own, d'.stages.get? (f i) = d.stages.get? i
  log_eq : d'.callLog = (d.callLog.filter (·.load.language == tag)).map (Call.renumber f)
  logged : ∀ c ∈ d.callLog, c.load.language = tag → c.load.id ∈ own

theorem mirrors_new (loaders : List Loader) (retry : RetryPolicy) (supply : Supply) (tag : String) :
    let new : Depot := { registry := { loaders, retry }, supply }
    Mirrors tag ∅ id new new := by
  intro new
  have hregular : new.Regular := ⟨⟨loaders, retry, [], rfl⟩, by simp [new, Table.get?]⟩
  exact ⟨hregular, hregular, Registry.mirrors_new loaders retry tag, rfl, .refl tag supply,
    by simp, rfl, by simp [new]⟩

theorem Mirrors.congr (h : Mirrors tag own f d d') (heq : ∀ i ∈ own, f₁ i = f i) :
    Mirrors tag own f₁ d d' where
  regular := h.regular
  regular' := h.regular'
  registry := h.registry.congr heq
  now_eq := h.now_eq
  supply := h.supply
  stage_eq := fun i hi => heq i hi ▸ h.stage_eq i hi
  log_eq := by
    rw [h.log_eq]
    apply List.map_congr_left
    intro c hc
    obtain ⟨hmem, hlang⟩ := List.mem_filter.mp hc
    simp [Call.renumber, Load.renumber, heq _ (h.logged c hmem (beq_iff_eq.mp hlang))]
  logged := h.logged

/-! ### Steps of other tags -/

theorem Mirrors.occur_elsewhere (h : Mirrors tag own f d d') {e : RegistryEvent}
    (hspares : d.registry.Spares tag e) :
    Mirrors tag own f { d with registry := d.registry.occur d.now e } d' :=
  { h with
    regular := h.regular.occur d.now e
    registry := (d.registry.occur_effect d.now e).mirrors h.regular.reachable h.registry hspares }

theorem Mirrors.setGate_elsewhere (h : Mirrors tag own f d d') (hne : language ≠ tag)
    (isOpen : Bool) : Mirrors tag own f (d.setGate language isOpen) d' :=
  { h with
    regular := ⟨h.regular.reachable, h.regular.staged⟩
    supply := h.supply.setGate_of_ne hne isOpen }

theorem Mirrors.advance_elsewhere (h : Mirrors tag own f d d') (ht : t ∈ d.registry.tasks)
    (hne : t.load.language ≠ tag) : Mirrors tag own f (d.advance t) d' := by
  have hforeign : t.load.id ∉ own := fun hown => hne ((h.registry.own_task t ht).mp hown)
  have hstages :
      ∀ stage, ∀ i ∈ own, d'.stages.get? (f i) = (d.stages.insert t.load.id stage).get? i := by
    intro stage i hi
    have hi' : i ≠ t.load.id := fun heq => hforeign (heq ▸ hi)
    rw [h.stage_eq i hi, Table.get?_insert_of_ne _ _ hi']
  have hregular := h.regular.advance ht
  unfold advance at hregular ⊢
  cases hstage : d.stages.get? t.load.id with
  | none =>
      rw [hstage] at hregular
      refine { h with
        regular := hregular
        supply := h.supply.countCall_of_ne hne
        stage_eq := hstages _
        log_eq := ?_
        logged := ?_ }
      · simp [hne, h.log_eq]
      · intro c hc hlang
        rcases List.mem_cons.mp hc with rfl | hold
        · exact absurd hlang hne
        · exact h.logged c hold hlang
  | some stage =>
      rw [hstage] at hregular
      cases stage with
      | atGate call => exact { h with regular := hregular, stage_eq := hstages _ }
      | working call doneAt =>
          apply h.occur_elsewhere (e := .finish t.load.id _)
          intro u hu hid hlang
          exact hforeign (hid ▸ (h.registry.own_task u hu).mpr hlang)

/-! ### Steps of the tag -/

theorem Mirrors.stage_renumber (h : Mirrors tag own f d d') (ht : t ∈ d.registry.tasksOf tag) :
    d'.stages.get? (t.renumber f).load.id = d.stages.get? t.load.id :=
  h.stage_eq _ (h.registry.own_of_mem ht)

theorem Mirrors.wakeTime?_eq (h : Mirrors tag own f d d') (ht : t ∈ d.registry.tasksOf tag) :
    d'.wakeTime? (t.renumber f) = d.wakeTime? t := by
  unfold wakeTime?
  rw [h.stage_renumber ht]
  rfl

theorem Mirrors.canRun_eq (h : Mirrors tag own f d d') (ht : t ∈ d.registry.tasksOf tag) :
    d'.canRun (t.renumber f) = d.canRun t := by
  have hlang : t.load.language = tag := (Registry.mem_tasksOf.mp ht).2
  have hopen : d'.supply.isOpen (t.renumber f).load.language = d.supply.isOpen t.load.language :=
    hlang ▸ h.supply.isOpen_eq
  rw [Depot.canRun_eq, Depot.canRun_eq, h.wakeTime?_eq ht, hopen, h.now_eq]

theorem Mirrors.advance (h : Mirrors tag own f d d') (ht : t ∈ d.registry.tasksOf tag) :
    Mirrors tag own f (d.advance t) (d'.advance (t.renumber f)) := by
  obtain ⟨hmem, hlang⟩ := Registry.mem_tasksOf.mp ht
  have hown := h.registry.own_of_mem ht
  have hstages : ∀ stage, ∀ i ∈ own,
      (d'.stages.insert (f t.load.id) stage).get? (f i) =
        (d.stages.insert t.load.id stage).get? i := by
    intro stage i hi
    simp only [Table.get?_insert, h.registry.id_eq_iff hi hown, h.stage_eq i hi]
  have hregular := h.regular.advance hmem
  have hregular' := h.regular'.advance (h.registry.mem ht)
  unfold Depot.advance at hregular hregular' ⊢
  rw [h.stage_renumber ht] at hregular' ⊢
  simp only [LoadTask.renumber, Load.renumber, hlang] at hregular hregular' ⊢
  cases hstage : d.stages.get? t.load.id with
  | none =>
      rw [hstage] at hregular hregular'
      rw [h.supply.callCount_eq] at hregular' ⊢
      exact { h with
        regular := hregular
        regular' := hregular'
        supply := h.supply.countCall
        stage_eq := hstages _
        log_eq := by simp [hlang, h.log_eq, Call.renumber, Load.renumber, h.now_eq]
        logged := by
          intro c hc hc'
          rcases List.mem_cons.mp hc with rfl | hold
          · exact hown
          · exact h.logged c hold hc' }
  | some stage =>
      rw [hstage] at hregular hregular'
      cases stage with
      | atGate call =>
          have hdone : d'.now + d'.supply.delay tag = d.now + d.supply.delay tag := by
            rw [h.now_eq, h.supply.delay_eq]
          simp only [hdone] at hregular' ⊢
          exact { h with
            regular := hregular
            regular' := hregular'
            stage_eq := hstages _ }
      | working call doneAt =>
          have hfinish := h.registry.finish h.regular.reachable h.regular'.reachable ht d.now
            ((d.supply.callEnd tag call).result t.loader tag)
          exact { h with
            regular := hregular
            regular' := hregular'
            registry := by simpa only [h.now_eq, h.supply.callEnd_eq] using hfinish }

/-! ### Lapses -/

theorem Mirrors.setClock (h : Mirrors tag own f d d') (time : Nat) :
    Mirrors tag own f (d.setClock time) (d'.setClock time) :=
  { h with
    regular := ⟨h.regular.reachable, h.regular.staged⟩
    regular' := ⟨h.regular'.reachable, h.regular'.staged⟩
    now_eq := rfl }

theorem Mirrors.exists_task (h : Mirrors tag own f d d') {u : LoadTask}
    (hu : u ∈ d'.registry.tasks) : ∃ t ∈ d.registry.tasksOf tag, t.renumber f = u := by
  rw [h.registry.tasks_eq] at hu
  exact List.mem_map.mp hu

theorem Mirrors.still (h : Mirrors tag own f d d') (hstill : d.Still) : d'.Still := by
  intro u hu
  obtain ⟨t, ht, rfl⟩ := h.exists_task hu
  rw [h.canRun_eq ht]
  exact hstill t (Registry.mem_tasksOf.mp ht).1

/-- A lapse up to where no task can go on leaves the mirror image where a lapse of its own, which
takes as long, leaves it. -/
theorem Mirrors.lapses (h : Mirrors tag own f d d') (hd : d.Lapses e) (he : e.Still)
    (hd' : d'.Lapses e') (he' : e'.Still) (hnow : e'.now = e.now) : Mirrors tag own f e e' := by
  induction hd using Relation.ReflTransGen.head_induction_on generalizing d' with
  | refl =>
      have hsame := hd'.eq_of_still (h.still he) (hnow.trans h.now_eq.symm)
      exact hsame ▸ h
  | head hstep hrest ih =>
      cases hstep with
      | work t ht hrun =>
          by_cases hlang : t.load.language = tag
          · -- the task is the only one of the tag, so the lapse of the tag begins with it too
            have hmem := Registry.mem_tasksOf.mpr ⟨ht, hlang⟩
            have hrun' := (h.canRun_eq hmem).trans hrun
            have hmem' := h.registry.mem hmem
            rcases Relation.ReflTransGen.cases_head hd' with rfl | ⟨m, hfirst, hlater⟩
            · exact absurd hrun' (he'.not_work hmem')
            · cases hfirst with
              | work u hu hrunU =>
                  obtain ⟨v, hv, rfl⟩ := h.exists_task hu
                  obtain rfl := (h.regular.reachable.lone tag).eq_of_mem hmem hv
                  exact ih (h.advance hmem) hlater
              | clock time hstill hle hnext => exact absurd hrun' (hstill.not_work hmem')
          · exact ih (h.advance_elsewhere ht hlang) hd'
      | clock time hstill hle hnext =>
          apply ih (h.setClock time)
          apply hd'.cut (h.still hstill)
          · exact h.now_eq ▸ hle
          · intro u hu due hwake
            obtain ⟨t, ht, rfl⟩ := h.exists_task hu
            exact hnext t (Registry.mem_tasksOf.mp ht).1 due ((h.wakeTime?_eq ht).symm.trans hwake)
          · exact hnow ▸ Lapses.now_le hrest

theorem Mirrors.wait (h : Mirrors tag own f d d') (ms : Nat) :
    Mirrors tag own f (d.wait ms) (d'.wait ms) := by
  obtain ⟨hlapses, hstill, hnow⟩ := wait_spec h.regular.task_ids ms
  obtain ⟨hlapses', hstill', hnow'⟩ := wait_spec h.regular'.task_ids ms
  apply h.lapses hlapses hstill hlapses' hstill'
  rw [hnow, hnow', h.now_eq]

/-! ### Single steps -/

/-- The task of a tag goes on, if there is one and it can. -/
def goOn (d : Depot) (language : String) : Depot :=
  match d.registry.tasksOf language with
  | [] => d
  | t :: _ => d.poll t.load.id

theorem Mirrors.goOn_elsewhere (h : Mirrors tag own f d d') (hne : language ≠ tag) :
    Mirrors tag own f (d.goOn language) d' := by
  unfold goOn
  cases htasks : d.registry.tasksOf language with
  | nil => exact h
  | cons t ts =>
      have hmem : t ∈ d.registry.tasksOf language := htasks ▸ List.mem_cons_self
      obtain ⟨ht, rfl⟩ := Registry.mem_tasksOf.mp hmem
      simp only [poll_eq h.regular.task_ids ht]
      split
      · exact h.advance_elsewhere ht hne
      · exact h

theorem Mirrors.goOn (h : Mirrors tag own f d d') :
    Mirrors tag own f (d.goOn tag) (d'.goOn tag) := by
  have hall : d'.registry.tasksOf tag = (d.registry.tasksOf tag).map (LoadTask.renumber f) := by
    rw [Registry.tasksOf, List.filter_eq_self.mpr]
    · exact h.registry.tasks_eq
    · intro u hu
      obtain ⟨t, ht, rfl⟩ := h.exists_task hu
      exact beq_iff_eq.mpr (Registry.mem_tasksOf.mp ht).2
  unfold Depot.goOn
  rw [hall]
  cases htasks : d.registry.tasksOf tag with
  | nil => exact h
  | cons t ts =>
      have hmem : t ∈ d.registry.tasksOf tag := htasks ▸ List.mem_cons_self
      have ht := (Registry.mem_tasksOf.mp hmem).1
      simp only [List.map_cons, poll_eq h.regular.task_ids ht,
        poll_eq h.regular'.task_ids (h.registry.mem hmem), h.canRun_eq hmem]
      split
      · exact h.advance hmem
      · exact h

/-- A request may start a load on both sides; the numbers of the older ones stay. -/
theorem Mirrors.ensureLoaded (h : Mirrors tag own f d d') :
    ∃ own₁ f₁, (∀ i ∈ own, i ∈ own₁ ∧ f₁ i = f i) ∧
      Mirrors tag own₁ f₁ (d.ensureLoaded tag).2 (d'.ensureLoaded tag).2 ∧
      (∀ l, (d.ensureLoaded tag).1 = some l → l.language = tag ∧ l.id ∈ own₁) ∧
      (d'.ensureLoaded tag).1 = (d.ensureLoaded tag).1.map (Load.renumber f₁) := by
  let f₁ := Function.update f d.registry.nextId d'.registry.nextId
  have hsame : ∀ i ∈ own, f₁ i = f i := fun i hi =>
    Function.update_of_ne (Nat.ne_of_lt (h.registry.own_lt i hi).1) _ _
  have hf : f₁ d.registry.nextId = d'.registry.nextId := Function.update_self _ _ _
  have h₁ := h.congr hsame
  obtain ⟨own₁, hsub, hnew, hregistry, hload⟩ :=
    h₁.registry.ensureLoaded h.regular.reachable h.regular'.reachable hf d.now
  refine ⟨own₁, f₁, fun i hi => ⟨hsub hi, hsame i hi⟩, ?_, ?_, ?_⟩
  · exact { h₁ with
      regular := h.regular.occur d.now (.ensure tag)
      regular' := h.regular'.occur d'.now (.ensure tag)
      registry := by simpa only [Depot.ensureLoaded, h.now_eq] using hregistry
      stage_eq := by
        intro i hi
        rcases Set.mem_insert_iff.mp (hnew hi) with rfl | hold
        · rw [hf]
          exact h.regular'.unstaged.trans h.regular.unstaged.symm
        · exact h₁.stage_eq i hold
      logged := fun c hc hlang => hsub (h.logged c hc hlang) }
  · intro l hl
    obtain ⟨hlang, failures, hslot⟩ := Registry.ensureLoaded_some hl
    exact ⟨hlang, hregistry.own_slot hslot⟩
  · simpa only [Depot.ensureLoaded, h.now_eq] using hload

theorem Mirrors.register (h : Mirrors tag own f d d') (g : Grammar) :
    Mirrors tag own f (d.register tag g).2 (d'.register tag g).2 :=
  { h with
    regular := h.regular.occur d.now (.register tag g)
    regular' := h.regular'.occur d'.now (.register tag g)
    registry := h.registry.register g }

theorem Mirrors.setGate (h : Mirrors tag own f d d') (isOpen : Bool) :
    Mirrors tag own f (d.setGate tag isOpen) (d'.setGate tag isOpen) :=
  { h with
    regular := ⟨h.regular.reachable, h.regular.staged⟩
    regular' := ⟨h.regular'.reachable, h.regular'.staged⟩
    supply := h.supply.setGate isOpen }

end Depot

end Highlight
