import Highlight.Proofs.Surface.Mirroring

/-!
# Tags do not interfere

A course is a run of a depot together with the loads that were handed out in it.  Its events concern
one tag each, or the clock.  Of a course with many tags, one tag sees what it would see alone: the
course without the events of all other tags goes through the mirror images of the same states, so
that the tag has the same status at each time, its loads end alike, and its loader is called at the
same times.
-/

namespace Highlight

inductive TagEvent where
  | ensure (language : String)
  | register (language : String) (g : Grammar)
  | gate (language : String) (isOpen : Bool)
  /-- The task of the tag goes on if it can. -/
  | goOn (language : String)
  /-- The clock moves, whatever waits for it. -/
  | elapse (ms : Nat)
  /-- Time is let pass, and all tasks go on when they can. -/
  | wait (ms : Nat)

def TagEvent.concerns (tag : String) : TagEvent → Bool
  | ensure language | register language _ | gate language _ | goOn language => language == tag
  | elapse _ | wait _ => true

/-- A depot and the loads that were handed out, in their order. -/
structure Course where
  depot : Depot
  handles : List Load := []

namespace Course

def heed (c : Course) : TagEvent → Course
  | .ensure language =>
      let (load?, depot) := c.depot.ensureLoaded language
      { depot, handles := c.handles ++ load?.toList }
  | .register language g => { c with depot := (c.depot.register language g).2 }
  | .gate language isOpen => { c with depot := c.depot.setGate language isOpen }
  | .goOn language => { c with depot := c.depot.goOn language }
  | .elapse ms => { c with depot := c.depot.setClock (c.depot.now + ms) }
  | .wait ms => { c with depot := c.depot.wait ms }

def run (c : Course) : List TagEvent → Course
  | [] => c
  | e :: es => (c.heed e).run es

/-- The loads of a tag that were handed out. -/
def handlesOf (c : Course) (tag : String) : List Load := c.handles.filter (·.language == tag)

/-- The calls of loaders for a tag, latest first. -/
def callsFor (c : Course) (tag : String) : List Call :=
  c.depot.callLog.filter (·.load.language == tag)

variable {c c' : Course} {tag : String} {own : Set Nat} {f : Nat → Nat} {e : TagEvent}

structure Mirrors (tag : String) (own : Set Nat) (f : Nat → Nat) (c c' : Course) : Prop where
  depot : c.depot.Mirrors tag own f c'.depot
  handles_eq : c'.handles = (c.handlesOf tag).map (Load.renumber f)
  handed : ∀ l ∈ c.handlesOf tag, l.id ∈ own

theorem handlesOf_ensure (c : Course) (language tag : String) :
    (c.heed (.ensure language)).handlesOf tag =
      c.handlesOf tag ++
        if language = tag then (c.depot.ensureLoaded language).1.toList else [] := by
  simp only [handlesOf, heed, List.filter_append]
  congr 1
  have hlang : ∀ l ∈ (c.depot.ensureLoaded language).1.toList, l.language = language :=
    fun l hl => (Registry.ensureLoaded_some (Option.mem_toList.mp hl)).1
  split
  · rename_i htag
    rw [List.filter_eq_self]
    exact fun l hl => beq_iff_eq.mpr ((hlang l hl).trans htag)
  · rename_i htag
    rw [List.filter_eq_nil_iff]
    exact fun l hl heq => htag ((hlang l hl).symm.trans (beq_iff_eq.mp heq))

theorem Mirrors.heed_elsewhere (h : c.Mirrors tag own f c') (he : e.concerns tag = false) :
    (c.heed e).Mirrors tag own f c' := by
  cases e with
  | ensure language =>
      have hne : language ≠ tag := by simpa [TagEvent.concerns] using he
      have hsame : (c.heed (.ensure language)).handlesOf tag = c.handlesOf tag := by
        rw [handlesOf_ensure, if_neg hne, List.append_nil]
      refine ⟨?_, hsame ▸ h.handles_eq, hsame ▸ h.handed⟩
      exact h.depot.occur_elsewhere (e := .ensure language) hne
  | register language g =>
      have hne : language ≠ tag := by simpa [TagEvent.concerns] using he
      exact ⟨h.depot.occur_elsewhere (e := .register language g) hne, h.handles_eq, h.handed⟩
  | gate language isOpen =>
      have hne : language ≠ tag := by simpa [TagEvent.concerns] using he
      exact ⟨h.depot.setGate_elsewhere hne isOpen, h.handles_eq, h.handed⟩
  | goOn language =>
      have hne : language ≠ tag := by simpa [TagEvent.concerns] using he
      exact ⟨h.depot.goOn_elsewhere hne, h.handles_eq, h.handed⟩
  | elapse ms => simp [TagEvent.concerns] at he
  | wait ms => simp [TagEvent.concerns] at he

theorem Mirrors.ensure (h : c.Mirrors tag own f c') :
    ∃ own₁ f₁, (c.heed (.ensure tag)).Mirrors tag own₁ f₁ (c'.heed (.ensure tag)) := by
  obtain ⟨own₁, f₁, hold, hdepot, hloads, hload⟩ := h.depot.ensureLoaded
  have hhandles : (c.heed (.ensure tag)).handlesOf tag =
      c.handlesOf tag ++ (c.depot.ensureLoaded tag).1.toList := by
    rw [handlesOf_ensure, if_pos rfl]
  refine ⟨own₁, f₁, hdepot, ?_, ?_⟩
  · have hkept : (c.handlesOf tag).map (Load.renumber f₁) = c'.handles := by
      rw [h.handles_eq]
      apply List.map_congr_left
      intro l hl
      simp [Load.renumber, (hold _ (h.handed l hl)).2]
    rw [hhandles, List.map_append, hkept]
    simp only [heed, hload, Option.toList_map]
  · intro l hl
    rw [hhandles] at hl
    rcases List.mem_append.mp hl with hmem | hnew
    · exact (hold _ (h.handed l hmem)).1
    · exact (hloads l (Option.mem_toList.mp hnew)).2

theorem Mirrors.heed (h : c.Mirrors tag own f c') (he : e.concerns tag = true) :
    ∃ own₁ f₁, (c.heed e).Mirrors tag own₁ f₁ (c'.heed e) := by
  cases e with
  | ensure language =>
      obtain rfl : language = tag := by simpa [TagEvent.concerns] using he
      exact h.ensure
  | register language g =>
      obtain rfl : language = tag := by simpa [TagEvent.concerns] using he
      exact ⟨own, f, h.depot.register g, h.handles_eq, h.handed⟩
  | gate language isOpen =>
      obtain rfl : language = tag := by simpa [TagEvent.concerns] using he
      exact ⟨own, f, h.depot.setGate isOpen, h.handles_eq, h.handed⟩
  | goOn language =>
      obtain rfl : language = tag := by simpa [TagEvent.concerns] using he
      exact ⟨own, f, h.depot.goOn, h.handles_eq, h.handed⟩
  | elapse ms =>
      have hclock := h.depot.setClock (c.depot.now + ms)
      exact ⟨own, f, by simpa only [Course.heed, h.depot.now_eq] using hclock, h.handles_eq,
        h.handed⟩
  | wait ms => exact ⟨own, f, h.depot.wait ms, h.handles_eq, h.handed⟩

/-- The induction goes along the whole course; the course of the tag takes only the steps that
concern it. -/
theorem Mirrors.run (h : c.Mirrors tag own f c') (es : List TagEvent) :
    ∃ own₁ f₁, (c.run es).Mirrors tag own₁ f₁ (c'.run (es.filter (·.concerns tag))) := by
  induction es generalizing c c' own f with
  | nil => exact ⟨own, f, h⟩
  | cons e es ih =>
      cases he : e.concerns tag with
      | true =>
          obtain ⟨own₁, f₁, hstep⟩ := h.heed he
          rw [List.filter_cons_of_pos he]
          exact ih hstep
      | false =>
          rw [List.filter_cons_of_neg (by simp [he])]
          exact ih (h.heed_elsewhere he)

/-! ### Every interleaving is a course -/

/-- There is only one task of a tag that can go on, so that it need not be named. -/
theorem exists_heed_eq {d : Depot} (hr : d.registry.Reachable) (event : DepotEvent) :
    ∃ e, ∀ handles, (heed { depot := d, handles } e).depot = d.occur event := by
  cases event with
  | ensure language => exact ⟨.ensure language, fun _ => rfl⟩
  | register language g => exact ⟨.register language g, fun _ => rfl⟩
  | gate language isOpen => exact ⟨.gate language isOpen, fun _ => rfl⟩
  | elapse ms => exact ⟨.elapse ms, fun _ => rfl⟩
  | poll load =>
      cases htask : d.task? load with
      | none =>
          exact ⟨.elapse 0, fun _ => by simp [heed, Depot.occur, Depot.poll, htask, Depot.setClock]⟩
      | some t =>
          refine ⟨.goOn t.load.language, fun _ => ?_⟩
          have hmem : t ∈ d.registry.tasksOf t.load.language :=
            Registry.mem_tasksOf.mpr ⟨List.mem_of_find?_eq_some htask, rfl⟩
          obtain rfl : t.load.id = load := by simpa using List.find?_some htask
          simp only [heed, Depot.goOn, Depot.occur]
          cases htasks : d.registry.tasksOf t.load.language with
          | nil => simp [htasks] at hmem
          | cons u us =>
              have hu : u ∈ d.registry.tasksOf t.load.language := htasks ▸ List.mem_cons_self
              rw [(hr.lone _).eq_of_mem hmem hu]

theorem exists_run_eq {d : Depot} (hr : d.registry.Reachable) (events : List DepotEvent) :
    ∃ es, ∀ handles, (run { depot := d, handles } es).depot = d.after events := by
  induction events generalizing d with
  | nil => exact ⟨[], fun _ => rfl⟩
  | cons event events ih =>
      obtain ⟨e, he⟩ := exists_heed_eq hr event
      have hr' : (d.occur event).registry.Reachable := d.registry_occur event ▸ hr.after _
      obtain ⟨es, hes⟩ := ih hr'
      refine ⟨e :: es, fun handles => ?_⟩
      rw [Depot.after, ← hes (heed { depot := d, handles } e).handles, ← he handles]
      rfl

/-- A course and the same course without the events of all tags but one, from a new registry on: at
the end of both, and so at each point between, they have the same time, and the tag has the same
status, the same failures and the same grammar.  The loads of the tag that were handed out are the
same, up to their numbers, whose order is the same too; each of them is over in both courses, with
the same outcome, or in neither.  The loaders were called for the tag as often and at the same
times. -/
theorem languages_do_not_interfere (loaders : List Loader) (retry : RetryPolicy) (supply : Supply)
    (tag : String) (es : List TagEvent) :
    let start : Course := { depot := { registry := { loaders, retry }, supply } }
    let whole := start.run es
    let alone := start.run (es.filter (·.concerns tag))
    let r := whole.depot.registry
    let r' := alone.depot.registry
    alone.depot.now = whole.depot.now ∧
    r'.status tag = r.status tag ∧
    r'.failures tag = r.failures tag ∧
    r'.isReady tag = r.isReady tag ∧
    r'.grammar? tag = r.grammar? tag ∧
    alone.depot.supply.callCount tag = whole.depot.supply.callCount tag ∧
    ∃ f : Nat → Nat,
      StrictMonoOn f {i | ∃ l ∈ whole.handlesOf tag, l.id = i} ∧
      alone.handles = (whole.handlesOf tag).map (Load.renumber f) ∧
      (∀ l ∈ whole.handlesOf tag,
        r'.isFinished (l.renumber f) = r.isFinished l ∧
        r'.outcome? (l.renumber f) = r.outcome? l) ∧
      alone.depot.callLog = (whole.callsFor tag).map (Call.renumber f) := by
  intro start whole alone r r'
  have hstart : start.Mirrors tag ∅ id start :=
    ⟨Depot.mirrors_new loaders retry supply tag, rfl, by simp [start, handlesOf]⟩
  obtain ⟨own, f, h⟩ := hstart.run es
  have hregistry := h.depot.registry
  have houtcome : ∀ l ∈ whole.handlesOf tag, r'.outcome? (l.renumber f) = r.outcome? l :=
    fun l hl => hregistry.outcome_eq l.id (h.handed l hl)
  refine ⟨h.depot.now_eq, hregistry.status_eq, hregistry.failures_eq, hregistry.isReady_eq,
    hregistry.grammar?_eq, h.depot.supply.callCount_eq, f, ?_, h.handles_eq, ?_, h.depot.log_eq⟩
  · apply hregistry.mono.mono
    rintro _ ⟨l, hl, rfl⟩
    exact h.handed l hl
  · exact fun l hl => ⟨congrArg Option.isSome (houtcome l hl), houtcome l hl⟩

-- Two tags fail and are loaded again; alone, the loads of the second one have other numbers.
example :
    let loaders : List Loader := [⟨fun _ => true, fun tag => .error (.notFound tag)⟩]
    let start : Course := { depot := { registry := { loaders } } }
    let es : List TagEvent :=
      [.ensure "y", .ensure "x", .wait 100, .ensure "y", .ensure "x", .wait 500]
    (start.run es).callsFor "x" = [⟨⟨4, "x"⟩, 250⟩, ⟨⟨2, "x"⟩, 0⟩] ∧
      (start.run (es.filter (·.concerns "x"))).callsFor "x" =
        [⟨⟨2, "x"⟩, 250⟩, ⟨⟨1, "x"⟩, 0⟩] := by
  decide +kernel

end Course

end Highlight
