import Highlight.Proofs.Registry.Guards
import Highlight.Proofs.Registry.Polling
import Highlight.Proofs.Registry.Retries

/-!
# Calls of loaders

The task of a load calls the loader once, when its time has come.  The clock of a depot is punctual
if it never passes such a time by; then each call takes place at the very time that the journal of
the registry makes it due.  With guards it is the same on a clock that can tell the waits.
-/

namespace Highlight

inductive DepotEvent where
  | ensure (language : String)
  | register (language : String) (g : Grammar)
  | gate (language : String) (isOpen : Bool)
  /-- The task of a load goes on if it can. -/
  | poll (load : Nat)
  | elapse (ms : Nat)

namespace Depot

def occur (d : Depot) : DepotEvent → Depot
  | .ensure language => (d.ensureLoaded language).2
  | .register language g => (d.register language g).2
  | .gate language isOpen => d.setGate language isOpen
  | .poll load => d.poll load
  | .elapse ms => { d with now := d.now + ms }

def after (d : Depot) : List DepotEvent → Depot
  | [] => d
  | e :: es => (d.occur e).after es

def occurGuarded? (d : Depot) : DepotEvent → Option Depot
  | .poll load => d.pollGuarded? load
  | e => some (d.occur e)

def afterGuarded? (d : Depot) : List DepotEvent → Option Depot
  | [] => some d
  | e :: es => (d.occurGuarded? e).bind (·.afterGuarded? es)

/-- What an event is for the registry. -/
def registryEvent? (d : Depot) : DepotEvent → Option RegistryEvent
  | .ensure language => some (.ensure language)
  | .register language g => some (.register language g)
  | .poll load => (d.report? load).map (.finish load)
  | _ => none

/-- What events are for the registry, with their times. -/
def history (d : Depot) : List DepotEvent → List (Nat × RegistryEvent)
  | [] => []
  | e :: es => ((d.registryEvent? e).map (d.now, ·)).toList ++ (d.occur e).history es

/-- Whether an event leaves alone a clock that has come to the time of a call. -/
def permits (d : Depot) : DepotEvent → Bool
  | .elapse ms => d.registry.tasks.all fun t =>
      (d.stages.get? t.load.id).isSome || d.now + ms ≤ t.callAt
  | _ => true

/-- Whether the clock passes by no time at which a loader is to be called. -/
def isPunctual (d : Depot) : List DepotEvent → Bool
  | [] => true
  | e :: es => d.permits e && (d.occur e).isPunctual es

/-- The calls that were made for a load. -/
def callsOf (d : Depot) (l : Load) : List Call := d.callLog.filter (·.load == l)

theorem registry_occur (d : Depot) (e : DepotEvent) :
    (d.occur e).registry = d.registry.after ((d.registryEvent? e).map (d.now, ·)).toList := by
  cases e with
  | ensure language => rfl
  | register language g => rfl
  | gate language isOpen => rfl
  | elapse ms => rfl
  | poll load =>
      simp only [occur, registryEvent?]
      have hpolled := d.polled load
      generalize d.report? load = result?, d.poll load = d' at hpolled ⊢
      cases hpolled <;> rfl

theorem registry_after (d : Depot) (es : List DepotEvent) :
    (d.after es).registry = d.registry.after (d.history es) := by
  induction es generalizing d with
  | nil => rfl
  | cons e es ih =>
      rw [after, ih, registry_occur, history, Registry.after_append]

end Depot

namespace Registry

/-- The call that a note makes due, after what was put down before. -/
def callDue? (retry : RetryPolicy) (earlier : List RegistryNote) : RegistryNote → Option Call
  | .started l time => some ⟨l, dueTime retry l.language earlier time⟩
  | _ => none

/-- The calls that notes make due, after what was put down before. -/
def callsDue (retry : RetryPolicy) (earlier : List RegistryNote) : List RegistryNote → List Call
  | [] => []
  | note :: later =>
      (callDue? retry earlier note).toList ++ callsDue retry (earlier ++ [note]) later

theorem callsDue_append (retry : RetryPolicy) (earlier xs ys : List RegistryNote) :
    callsDue retry earlier (xs ++ ys) =
      callsDue retry earlier xs ++ callsDue retry (earlier ++ xs) ys := by
  induction xs generalizing earlier with
  | nil => simp [callsDue]
  | cons x xs ih => simp [callsDue, ih]

end Registry

namespace Depot

open Registry

variable {d : Depot} {notes : List RegistryNote}

/-- Each load that was started has called its loader when that was due, or it is not due yet. -/
structure OnTime (d : Depot) (notes : List RegistryNote) : Prop where
  manned : d.registry.Manned (starts notes)
  counted : ∀ tag, Counted d.registry.retry tag notes (d.registry.slots.get? tag)
  logged : ∀ c ∈ d.callLog, c.load ∈ starts notes
  staged : ∀ {id}, d.stages.get? id ≠ none → id < d.registry.nextId
  waiting : ∀ c ∈ callsDue d.registry.retry [] notes, d.stages.get? c.load.id = none →
    d.callsOf c.load = [] ∧ d.now ≤ c.time ∧
      ∃ t ∈ d.registry.tasks, t.load = c.load ∧ t.callAt = c.time
  made : ∀ c ∈ callsDue d.registry.retry [] notes, d.stages.get? c.load.id ≠ none →
    d.callsOf c.load = [c]

/-- An event of the registry that starts no load and ends no task which has still to call. -/
theorem OnTime.keep (h : OnTime d notes) {r' : Registry} {n : Option RegistryNote}
    (hmanned : r'.Manned (starts (notes ++ n.toList)))
    (hcounted : ∀ tag, Counted r'.retry tag (notes ++ n.toList) (r'.slots.get? tag))
    (hretry : r'.retry = d.registry.retry) (hnext : r'.nextId = d.registry.nextId)
    (hnone : ∀ note ∈ n, note.start? = none)
    (htasks : ∀ t ∈ d.registry.tasks, d.stages.get? t.load.id = none → t ∈ r'.tasks) :
    OnTime { d with registry := r' } (notes ++ n.toList) := by
  have hsame : callsDue r'.retry [] (notes ++ n.toList) = callsDue d.registry.retry [] notes := by
    rw [hretry, callsDue_append]
    cases n with
    | none => simp [callsDue]
    | some note =>
        have hnote := hnone note rfl
        cases note <;> simp_all [callsDue, callDue?, RegistryNote.start?]
  constructor
  · exact hmanned
  · exact hcounted
  · intro c hc
    rw [starts_append]
    exact List.mem_append_left _ (h.logged c hc)
  · intro id hid
    exact hnext ▸ h.staged hid
  · intro c hc hstage
    obtain ⟨hcalls, hnow, t, ht, hload, hat⟩ := h.waiting c (hsame ▸ hc) hstage
    exact ⟨hcalls, hnow, t, htasks t ht (hload ▸ hstage), hload, hat⟩
  · intro c hc hstage
    exact h.made c (hsame ▸ hc) hstage

theorem OnTime.started (h : OnTime d notes) {language : String} {failures : Nat}
    {retryAt : Option Nat} {loader : Loader} (hplain : Language.isPlain language = false)
    (hawaits : d.registry.Awaits language failures retryAt)
    (hloader : d.registry.loaderFor? language = some loader) :
    OnTime { d with registry := (d.registry.start d.now language failures retryAt loader).2 }
      (notes ++ [.started ⟨d.registry.nextId, language⟩ d.now]) := by
  have hnew : ∀ note ∈ starts notes, note.id ≠ d.registry.nextId :=
    fun l hl => Nat.ne_of_lt (h.manned.id_lt hl)
  have hstage : d.stages.get? d.registry.nextId = none := by
    cases hs : d.stages.get? d.registry.nextId with
    | none => rfl
    | some stage => exact absurd (h.staged (by simp [hs])) (Nat.lt_irrefl _)
  have hcalls : d.callsOf ⟨d.registry.nextId, language⟩ = [] := by
    rw [callsOf, List.filter_eq_nil_iff]
    intro c hc heq
    exact hnew c.load (h.logged c hc) (congrArg Load.id (beq_iff_eq.mp heq))
  have hdue :
      callsDue d.registry.retry [] (notes ++ [.started ⟨d.registry.nextId, language⟩ d.now]) =
      callsDue d.registry.retry [] notes ++
        [⟨⟨d.registry.nextId, language⟩, dueTime d.registry.retry language notes d.now⟩] := by
    rw [callsDue_append]
    rfl
  have heffect : Effect d.registry d.now (.ensure language)
      (some (.started ⟨d.registry.nextId, language⟩ d.now))
      (d.registry.start d.now language failures retryAt loader).2 :=
    .started language failures retryAt loader hplain hawaits hloader
  constructor
  · exact h.manned.effect heffect
  · exact fun tag => heffect.counted (h.counted tag)
  · intro c hc
    rw [starts_append]
    exact List.mem_append_left _ (h.logged c hc)
  · exact fun hid => Nat.lt_succ_of_lt (h.staged hid)
  · intro c hc hnone
    have hc' : c ∈ callsDue d.registry.retry [] notes ++ [_] := hdue ▸ hc
    rcases List.mem_append.mp hc' with hold | hlast
    · obtain ⟨hcalled, hnow, t, ht, hload, hat⟩ := h.waiting c hold hnone
      exact ⟨hcalled, hnow, t, List.mem_append_left _ ht, hload, hat⟩
    · obtain rfl := List.mem_singleton.mp hlast
      have hat := hawaits.callAt_eq (h.counted language) d.now
      refine ⟨hcalls, ?_, _, List.mem_append_right _ List.mem_cons_self, rfl, hat⟩
      exact hat ▸ Nat.le_max_left _ _
  · intro c hc hsome
    have hc' : c ∈ callsDue d.registry.retry [] notes ++ [_] := hdue ▸ hc
    rcases List.mem_append.mp hc' with hold | hlast
    · exact h.made c hold hsome
    · obtain rfl := List.mem_singleton.mp hlast
      exact absurd hstage hsome

theorem OnTime.effect (h : OnTime d notes) {e : RegistryEvent} {n : Option RegistryNote}
    {r' : Registry} (t : Effect d.registry d.now e n r')
    (hcalled : ∀ id result, e = .finish id result → d.stages.get? id ≠ none) :
    OnTime { d with registry := r' } (notes ++ n.toList) := by
  have hmanned := h.manned.effect t
  have hcounted := fun tag => t.counted (h.counted tag)
  -- a task that has still to call its loader is not the one that reports
  have dropped : ∀ id, d.stages.get? id ≠ none → ∀ t ∈ d.registry.tasks,
      d.stages.get? t.load.id = none → t ∈ d.registry.tasks.filter (·.load.id != id) := by
    intro id hid t ht hnone
    refine List.mem_filter.mpr ⟨ht, ?_⟩
    simp only [bne_iff_ne, ne_eq]
    rintro rfl
    exact hid hnone
  cases t with
  | asked language => exact h.keep hmanned hcounted rfl rfl (by simp) fun t ht _ => ht
  | started language failures retryAt loader hplain hslot hloader =>
      exact h.started hplain hslot hloader
  | refused language g g' hslot =>
      exact h.keep hmanned hcounted rfl rfl (by simp [RegistryNote.start?]) fun t ht _ => ht
  | overtook language g failures id hslot =>
      exact h.keep hmanned hcounted rfl rfl (by simp [RegistryNote.start?]) fun t ht _ => ht
  | adopted language g hslot =>
      exact h.keep hmanned hcounted rfl rfl (by simp [RegistryNote.start?]) fun t ht _ => ht
  | late id result htask =>
      exact h.keep hmanned hcounted rfl rfl (by simp) (dropped id (hcalled id _ rfl))
  | loaded t g failures htask hslot =>
      exact h.keep hmanned hcounted rfl rfl (by simp [RegistryNote.start?])
        (dropped t.load.id (hcalled t.load.id _ rfl))
  | failed t error failures htask hslot =>
      exact h.keep hmanned hcounted rfl rfl (by simp [RegistryNote.start?])
        (dropped t.load.id (hcalled t.load.id _ rfl))

/-- A loader is called by a task whose time has come, and no later. -/
theorem OnTime.call (h : OnTime d notes) {t : LoadTask} (ht : t ∈ d.registry.tasks)
    (hstage : d.stages.get? t.load.id = none) (hdue : t.callAt ≤ d.now) (supply : Supply)
    (stage : Stage) :
    OnTime
      { d with
        supply
        stages := d.stages.insert t.load.id stage
        callLog := ⟨t.load, d.now⟩ :: d.callLog } notes := by
  have other : ∀ {c : Call}, c ∈ callsDue d.registry.retry [] notes → c.load.id ≠ t.load.id →
      (⟨t.load, d.now⟩ :: d.callLog).filter (·.load == c.load) = d.callsOf c.load := by
    intro c hc hne
    have hload : t.load ≠ c.load := fun heq => hne (congrArg Load.id heq.symm)
    simp [callsOf, hload]
  constructor
  · exact h.manned
  · exact h.counted
  · intro c hc
    rcases List.mem_cons.mp hc with rfl | hc
    · exact h.manned.task_started t ht
    · exact h.logged c hc
  · intro id hid
    by_cases heq : id = t.load.id
    · exact heq ▸ h.manned.id_lt (h.manned.task_started t ht)
    · exact h.staged (by simpa only [Table.get?_insert_of_ne _ _ heq] using hid)
  · intro c hc hnone
    have hne : c.load.id ≠ t.load.id := by
      intro heq
      simp [heq] at hnone
    obtain ⟨hcalls, hrest⟩ :=
      h.waiting c hc (by simpa only [Table.get?_insert_of_ne _ _ hne] using hnone)
    exact ⟨(other hc hne).trans hcalls, hrest⟩
  · intro c hc hsome
    by_cases heq : c.load.id = t.load.id
    · obtain ⟨hcalls, hnow, t', ht', hload, hat⟩ := h.waiting c hc (heq ▸ hstage)
      have htask : t' = t := h.manned.task_eq ht' ht (by rw [hload, heq])
      have htime : d.now = c.time := by
        rw [htask] at hat
        omega
      have hc' : (⟨t.load, d.now⟩ : Call) = c := by rw [htime, ← htask, hload]
      rw [hc']
      simpa [callsOf] using hcalls
    · exact (other hc heq).trans
        (h.made c hc (by simpa only [Table.get?_insert_of_ne _ _ heq] using hsome))

theorem OnTime.stage (h : OnTime d notes) {id : Nat} (hid : d.stages.get? id ≠ none)
    (stage : Stage) :
    OnTime { d with stages := d.stages.insert id stage } notes := by
  have same : ∀ {i}, (d.stages.insert id stage).get? i = none ↔ d.stages.get? i = none := by
    intro i
    by_cases heq : i = id
    · simp [heq, hid]
    · rw [Table.get?_insert_of_ne _ _ heq]
  exact ⟨h.manned, h.counted, h.logged, fun hs => h.staged (same.not.mp hs),
    fun c hc hnone => h.waiting c hc (same.mp hnone),
    fun c hc hsome => h.made c hc (same.not.mp hsome)⟩

theorem OnTime.elapse (h : OnTime d notes) {ms : Nat} (hp : d.permits (.elapse ms) = true) :
    OnTime { d with now := d.now + ms } notes := by
  refine ⟨h.manned, h.counted, h.logged, h.staged, ?_, h.made⟩
  intro c hc hnone
  obtain ⟨hcalls, -, t, ht, hload, hat⟩ := h.waiting c hc hnone
  have htask := List.all_eq_true.mp hp t ht
  have hle : d.now + ms ≤ t.callAt := by
    have hstage : d.stages.get? t.load.id = none := by rw [hload, hnone]
    simpa [hstage] using htask
  exact ⟨hcalls, hat ▸ hle, t, ht, hload, hat⟩

theorem OnTime.occur (h : OnTime d notes) {e : DepotEvent} (hp : d.permits e = true) :
    OnTime (d.occur e)
      (notes ++ d.registry.journal ((d.registryEvent? e).map (d.now, ·)).toList) := by
  cases e with
  | ensure language =>
      have hnext := h.effect (d.registry.ensure_effect d.now language) (by simp)
      simpa [Depot.occur, Depot.ensureLoaded, registryEvent?, journal] using hnext
  | register language g =>
      have hnext := h.effect (d.registry.register_effect d.now language g) (by simp)
      simpa [Depot.occur, Depot.register, registryEvent?, journal] using hnext
  | gate language isOpen =>
      have hnext : OnTime (d.setGate language isOpen) notes :=
        ⟨h.manned, h.counted, h.logged, h.staged, h.waiting, h.made⟩
      simpa [Depot.occur, registryEvent?, journal] using hnext
  | elapse ms => simpa [Depot.occur, registryEvent?, journal] using h.elapse hp
  | poll load =>
      simp only [Depot.occur, registryEvent?]
      have hpolled := d.polled load
      generalize d.report? load = result?, d.poll load = d' at hpolled ⊢
      cases hpolled with
      | idle hrun => simpa [journal] using h
      | called t ht hid hstage hdue =>
          subst hid
          simpa [journal] using h.call ht hstage hdue _ _
      | passed call doneAt hstage =>
          simpa [journal] using h.stage (by simp [hstage]) (.working call doneAt)
      | reported call doneAt result hstage =>
          have hreport : ∀ id result', RegistryEvent.finish load result = .finish id result' →
              d.stages.get? id ≠ none := by
            intro id result' heq
            obtain ⟨rfl, -⟩ := RegistryEvent.finish.inj heq
            simp [hstage]
          have hnext := h.effect (d.registry.finish_effect d.now load result) hreport
          simpa [journal] using hnext

theorem OnTime.after (h : OnTime d notes) {es : List DepotEvent} (hp : d.isPunctual es = true) :
    OnTime (d.after es) (notes ++ d.registry.journal (d.history es)) := by
  induction es generalizing d notes with
  | nil => simpa [Depot.after, history, journal] using h
  | cons e es ih =>
      obtain ⟨hfirst, hrest⟩ : d.permits e = true ∧ (d.occur e).isPunctual es = true := by
        simpa [isPunctual] using hp
      have hnext := ih (h.occur hfirst) hrest
      rw [history, journal_append, ← registry_occur, ← List.append_assoc]
      exact hnext

end Depot

end Highlight
