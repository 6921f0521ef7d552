import Highlight.Proofs.Session.Wakeful

/-!
# A ledger of follow-ups

A ledger is kept beside a session.  It has an entry for each batch of loads that a follow-up waits
for, and is written from what can be seen of the timeline before and after an act: a waiter that is
new, loads that are new in a waiter's queue, and a waiter that is gone, with or without a request.
-/

namespace Highlight

/-- How a batch stands: its follow-up is waiting, has made its request, or has gone without one. -/
inductive Standing where
  | waiting
  | answered
  | dropped
  deriving DecidableEq, Repr

structure Batch where
  task : Nat
  surface : Nat
  /-- The loads that the batch was opened with, and those that joined it. -/
  loads : List Load
  /-- All loads that were handed over since the batch was opened, as long as it waited. -/
  since : List Load
  standing : Standing := .waiting
  deriving DecidableEq, Repr

def Timeline.queue (w : Timeline) (id : Nat) : List Load :=
  match w.task? id with
  | some ⟨_, _, .loads pending⟩ => pending
  | _ => []

def Batch.next (before after : Timeline) (given : List Load) (b : Batch) : Batch :=
  if b.standing = .waiting then
    match after.task? b.task with
    | some _ =>
        { b with
          loads := b.loads ++ (after.queue b.task).drop (before.queue b.task).length
          since := b.since ++ given }
    | none =>
        { b with
          standing :=
            if before.dispatched.length < after.dispatched.length then .answered else .dropped }
  else b

/-- The batch of a follow-up that an act has started. -/
def Batch.ofTask? (before : Timeline) (given : List Load) (t : SurfaceTask) : Option Batch :=
  match t.awaited with
  | .loads pending =>
      if before.nextTask ≤ t.id then some ⟨t.id, t.surface, pending, given, .waiting⟩ else none
  | .time _ => none

/-- All batches so far, and the loads that were handed over for a living surface. -/
structure Ledger where
  batches : List Batch := []
  handed : List (Nat × Load) := []
  deriving DecidableEq, Repr

/-- The ledger after an act that handed loads over, for the surface that was attached and alive. -/
def Ledger.next (l : Ledger) (surface? : Option Nat) (before after : Timeline) (given : List Load) :
    Ledger where
  batches :=
    l.batches.map (Batch.next before after given) ++
      after.tasks.filterMap (Batch.ofTask? before given)
  handed :=
    l.handed ++
      match surface? with
      | some n => given.map fun load => (n, load)
      | none => []

namespace Session

/-- The loads that an act hands over to the scheduler. -/
def handsOver (s : Session) (a : Act) : List Load :=
  match s.change? a with
  | none => []
  | some c =>
      match s.pass.phase.decide (c.facts s.pass.engine.scanner) with
      | .remap => []
      | .recompute _ =>
          (s.pass.engine.recompute s.timeline.registry s.timeline.now c.doc).1.pending

def record (s : Session) (l : Ledger) (a : Act) : Ledger :=
  l.next (s.pass.scheduler.liveSurface? s.timeline) s.timeline (s.act a).timeline (s.handsOver a)

def ledger (s : Session) (l : Ledger) : List Act → Ledger
  | [] => l
  | a :: as => (s.act a).ledger (s.record l a) as

end Session

/-! ### What is written -/

/-- Notes that loads were handed over; they join the batch of a task, if there is one. -/
def Batch.note (task? : Option Nat) (given : List Load) (b : Batch) : Batch :=
  if b.standing = .waiting then
    { b with
      loads := if task? = some b.task then b.loads ++ given else b.loads
      since := b.since ++ given }
  else b

/-- Notes that the follow-up with a number is gone. -/
def Batch.close (task : Nat) (standing : Standing) (b : Batch) : Batch :=
  if b.standing = .waiting ∧ b.task = task then { b with standing } else b

section

variable {w w' : Timeline} {b : Batch} {given : List Load}

@[simp] theorem Batch.note_task (task? : Option Nat) : (b.note task? given).task = b.task := by
  unfold note
  split <;> rfl

@[simp] theorem Batch.note_surface (task? : Option Nat) :
    (b.note task? given).surface = b.surface := by
  unfold note
  split <;> rfl

@[simp] theorem Batch.note_standing (task? : Option Nat) :
    (b.note task? given).standing = b.standing := by
  unfold note
  split <;> rfl

@[simp] theorem Batch.close_task (task : Nat) (standing : Standing) :
    (b.close task standing).task = b.task := by
  unfold close
  split <;> rfl

@[simp] theorem Batch.close_surface (task : Nat) (standing : Standing) :
    (b.close task standing).surface = b.surface := by
  unfold close
  split <;> rfl

@[simp] theorem Batch.close_loads (task : Nat) (standing : Standing) :
    (b.close task standing).loads = b.loads := by
  unfold close
  split <;> rfl

theorem Batch.note_of_not_waiting (h : b.standing ≠ .waiting) (task? : Option Nat) :
    b.note task? given = b := if_neg h

theorem Batch.note_of_waiting (h : b.standing = .waiting) (task? : Option Nat) :
    b.note task? given =
      { b with
        loads := if task? = some b.task then b.loads ++ given else b.loads
        since := b.since ++ given } := if_pos h

@[simp] theorem Batch.note_none_loads : (b.note none given).loads = b.loads := by
  unfold note
  split <;> rfl

theorem Batch.mem_note {id : Nat} {x : Load} (hx : x ∈ (b.note (some id) given).loads) :
    x ∈ b.loads ∨ b.task = id ∧ x ∈ given := by
  unfold note at hx
  split at hx
  · simp only at hx
    split at hx
    · rename_i heq
      rcases List.mem_append.mp hx with hold | hnew
      · exact Or.inl hold
      · exact Or.inr ⟨(Option.some.inj heq).symm, hnew⟩
    · exact Or.inl hx
  · exact Or.inl hx

theorem Batch.mem_note_of_mem (task? : Option Nat) {x : Load} (hx : x ∈ b.loads) :
    x ∈ (b.note task? given).loads := by
  unfold note
  split
  · simp only
    split
    · exact List.mem_append_left _ hx
    · exact hx
  · exact hx

theorem Batch.close_of_waiting {id : Nat} (hw : b.standing = .waiting) (ht : b.task = id)
    (standing : Standing) : b.close id standing = { b with standing } := if_pos ⟨hw, ht⟩

theorem Batch.close_of_not {id : Nat} (h : ¬ (b.standing = .waiting ∧ b.task = id))
    (standing : Standing) : b.close id standing = b := if_neg h

/-- What keeps answers and surfaces changes no answer. -/
theorem Batch.answered_map (f : Batch → Batch)
    (hanswered : ∀ b, (f b).standing = .answered ↔ b.standing = .answered)
    (hsurface : ∀ b, (f b).surface = b.surface) (bs : List Batch) :
    ((bs.map f).filter (·.standing == .answered)).map Batch.surface =
      (bs.filter (·.standing == .answered)).map Batch.surface := by
  induction bs with
  | nil => rfl
  | cons b bs ih =>
      by_cases hb : b.standing = .answered
      · simp [(hanswered b).mpr hb, hsurface, hb, ih]
      · have hfb : (f b).standing ≠ .answered := fun h => hb ((hanswered b).mp h)
        simp [hfb, hb, ih]

theorem Batch.answered_close {bs : List Batch} (hnodup : (bs.map Batch.task).Nodup) (hb : b ∈ bs)
    (hw : b.standing = .waiting) :
    (((bs.map (Batch.close b.task .answered)).filter (·.standing == .answered)).map
        Batch.surface).Perm
      (b.surface :: (bs.filter (·.standing == .answered)).map Batch.surface) := by
  induction bs with
  | nil => simp at hb
  | cons c bs ih =>
      obtain ⟨hc, hbs⟩ := List.nodup_cons.mp hnodup
      rcases List.mem_cons.mp hb with rfl | hb
      · have hothers : bs.map (Batch.close b.task .answered) = bs := by
          refine (List.map_congr_left ?_).trans bs.map_id
          intro d hd
          have hne : d.task ≠ b.task := fun he => hc (List.mem_map.mpr ⟨d, hd, he⟩)
          exact close_of_not (fun h => hne h.2) _
        simp [close_of_waiting hw rfl, hothers, hw]
      · have hne : c.task ≠ b.task := fun he => hc (List.mem_map.mpr ⟨b, hb, he.symm⟩)
        have hperm := ih hbs hb
        rw [List.map_cons, close_of_not (fun h => hne h.2)]
        by_cases ha : c.standing = .answered
        · simp only [ha, beq_self_eq_true, List.filter_cons_of_pos, List.map_cons]
          exact (hperm.cons c.surface).trans (List.Perm.swap _ _ _)
        · simpa [List.filter_cons, ha] using hperm

theorem Timeline.Numbered.queue_eq (h : w.Numbered) {id n : Nat} {pending : List Load}
    (ht : ⟨id, n, .loads pending⟩ ∈ w.tasks) : w.queue id = pending := by
  have htask := h.task?_eq ht
  simp only at htask
  rw [Timeline.queue, htask]

theorem Batch.next_of_not_waiting (h : b.standing ≠ .waiting) : b.next w w' given = b := if_neg h

/-- A batch whose follow-up waits on, for other loads perhaps. -/
theorem Batch.next_of_mem (hw : w.Numbered) (hw' : w'.Numbered) (hb : b.standing = .waiting)
    {pending pending' joined : List Load} {n n' : Nat} (ht : ⟨b.task, n, .loads pending⟩ ∈ w.tasks)
    (ht' : ⟨b.task, n', .loads pending'⟩ ∈ w'.tasks)
    (hjoined : pending'.drop pending.length = joined) :
    b.next w w' given = { b with loads := b.loads ++ joined, since := b.since ++ given } := by
  have htask := hw'.task?_eq ht'
  simp only at htask
  rw [next, if_pos hb, htask, hw.queue_eq ht, hw'.queue_eq ht', hjoined]

theorem Batch.next_of_gone (hb : b.standing = .waiting) (h : ∀ t ∈ w'.tasks, t.id ≠ b.task) :
    b.next w w' given =
      { b with
        standing :=
          if w.dispatched.length < w'.dispatched.length then .answered else .dropped } := by
  rw [next, if_pos hb, Timeline.task?_eq_none h]

theorem Batch.filterMap_ofTask?_eq_nil
    (h : ∀ t ∈ w'.tasks, t.awaited.request = .grammarLoaded → t.id < w.nextTask) :
    w'.tasks.filterMap (Batch.ofTask? w given) = [] := by
  rw [List.filterMap_eq_nil_iff]
  intro t ht
  unfold ofTask?
  cases ha : t.awaited with
  | time due => rfl
  | loads pending =>
      have hlt := h t ht (by rw [ha]; rfl)
      simp [Nat.not_le.mpr hlt]

theorem Ledger.next_nil (l : Ledger) (surface? : Option Nat)
    (h : ∀ t ∈ w'.tasks, t.awaited.request = .grammarLoaded → t.id < w.nextTask) :
    l.next surface? w w' [] = { l with batches := l.batches.map (Batch.next w w' []) } := by
  unfold next
  rw [Batch.filterMap_ofTask?_eq_nil h, List.append_nil]
  cases surface? <;> simp

end

end Highlight
