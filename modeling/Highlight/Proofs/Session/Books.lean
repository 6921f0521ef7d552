import Highlight.Proofs.Session.Ledger
import Highlight.Proofs.Surface.Still
import Mathlib.Data.List.Perm.Subperm

/-!
# The ledger is in order

The ledger of a session is in order at all times.  A batch that waits has its task, whose queue
holds what is left of the batch; a batch that was answered is over; a batch was dropped only with
its surface.  No load is in two batches of one surface, nor in two that are not lost.
-/

namespace Highlight

variable {w w' : Timeline}

/-! ### Batches -/

/-- The batch is not lost, neither now nor with its surface later on. -/
def Batch.Kept (w : Timeline) (b : Batch) : Prop :=
  b.standing = .answered ∨ b.standing = .waiting ∧ w.isLive b.surface = true

def Batch.Apart (b b' : Batch) : Prop := ∀ x ∈ b.loads, ∀ y ∈ b'.loads, x.id ≠ y.id

structure Batch.Good (w : Timeline) (b : Batch) : Prop where
  task_lt : b.task < w.nextTask
  surface_lt : b.surface < w.surfaces.length
  loads_ne : b.loads ≠ []
  ids : ∀ x ∈ b.loads, 1 ≤ x.id ∧ x.id < w.registry.nextId
  /-- The loads in front of those that the task still waits for are over. -/
  waiting : b.standing = .waiting → ∃ done pending,
    ⟨b.task, b.surface, .loads pending⟩ ∈ w.tasks ∧ b.loads = done ++ pending ∧
      ∀ x ∈ done, w.registry.isFinished x = true
  answered : b.standing = .answered → ∀ x ∈ b.loads, w.registry.isFinished x = true
  dropped : b.standing = .dropped → w.isLive b.surface = false
  since_eq : b.Kept w → b.since = b.loads

theorem Batch.Kept.still {b : Batch} (hs : w.Still w') (hlt : b.surface < w.surfaces.length)
    (h : b.Kept w') : b.Kept w := by
  rcases h with ha | ⟨hw, hlive⟩
  · exact Or.inl ha
  · exact Or.inr ⟨hw, hs.live b.surface hlt hlive⟩

theorem Batch.Good.still {b : Batch} (h : b.Good w) (hs : w.Still w') : b.Good w' where
  task_lt := Nat.lt_of_lt_of_le h.task_lt hs.nextTask_le
  surface_lt := Nat.lt_of_lt_of_le h.surface_lt hs.surfaces_le
  loads_ne := h.loads_ne
  ids := fun x hx => ⟨(h.ids x hx).1, Nat.lt_of_lt_of_le (h.ids x hx).2 hs.nextId_le⟩
  waiting := by
    intro hw
    obtain ⟨done, pending, ht, hloads, hdone⟩ := h.waiting hw
    exact ⟨done, pending, (hs.waiters _ rfl).mpr ht, hloads, fun x hx => hs.finished x (hdone x hx)⟩
  answered := fun ha x hx => hs.finished x (h.answered ha x hx)
  dropped := by
    intro hd
    rw [Bool.eq_false_iff]
    intro hlive
    have hbefore := hs.live b.surface h.surface_lt hlive
    rw [h.dropped hd] at hbefore
    exact absurd hbefore Bool.false_ne_true
  since_eq := fun hk => h.since_eq (hk.still hs h.surface_lt)

theorem Batch.Good.setAwaited_of_ne {b : Batch} (h : b.Good w) {id : Nat}
    (hne : b.standing = .waiting → b.task ≠ id) (a : Awaited) : b.Good (w.setAwaited id a) := by
  refine ⟨h.task_lt, h.surface_lt, h.loads_ne, h.ids, ?_, h.answered, h.dropped, h.since_eq⟩
  intro hw
  obtain ⟨done, pending, ht, hloads, hdone⟩ := h.waiting hw
  exact ⟨done, pending, Timeline.mem_setAwaited_of_ne a ht (hne hw), hloads, hdone⟩

/-! ### The books -/

/-- The ledger is in order. -/
structure Books (sch : Scheduler) (w : Timeline) (l : Ledger) : Prop where
  orderly : sch.Orderly w
  sound : w.registry.Sound
  good : ∀ b ∈ l.batches, b.Good w
  tasks_nodup : (l.batches.map Batch.task).Nodup
  booked : ∀ t ∈ w.tasks, t.awaited.request = .grammarLoaded →
    ∃ b ∈ l.batches, b.task = t.id ∧ b.standing = .waiting
  apart : ∀ b ∈ l.batches, ∀ b' ∈ l.batches, b.task ≠ b'.task →
    b.surface = b'.surface ∨ b.Kept w ∧ b'.Kept w → b.Apart b'
  handed : ∀ h ∈ l.handed, ∃ b ∈ l.batches, b.surface = h.1 ∧ h.2 ∈ b.loads
  requests : ((w.dispatched.filter (·.request == .grammarLoaded)).map Dispatched.surface).Perm
    ((l.batches.filter (·.standing == .answered)).map Batch.surface)

variable {sch sch' : Scheduler} {l : Ledger}

/-- What only tells how batches stand keeps the books in order. -/
theorem Books.mapped (h : Books sch w l) {f : Batch → Batch} (horderly : sch'.Orderly w')
    (hsound : w'.registry.Sound)
    (hsame : ∀ b, (f b).task = b.task ∧ (f b).surface = b.surface ∧ (f b).loads = b.loads)
    (hgood : ∀ b ∈ l.batches, (f b).Good w')
    (hkept : ∀ b ∈ l.batches, (f b).Kept w' → b.Kept w)
    (hbooked : ∀ t ∈ w'.tasks, t.awaited.request = .grammarLoaded →
      ∃ b ∈ l.batches, b.task = t.id ∧ (f b).standing = .waiting)
    (hrequests : ((w'.dispatched.filter (·.request == .grammarLoaded)).map Dispatched.surface).Perm
      (((l.batches.map f).filter (·.standing == .answered)).map Batch.surface)) :
    Books sch' w' { l with batches := l.batches.map f } := by
  refine ⟨horderly, hsound, ?_, ?_, ?_, ?_, ?_, hrequests⟩
  · intro b' hb'
    obtain ⟨b, hb, rfl⟩ := List.mem_map.mp hb'
    exact hgood b hb
  · have htasks : (l.batches.map f).map Batch.task = l.batches.map Batch.task := by
      rw [List.map_map]
      exact List.map_congr_left fun b _ => (hsame b).1
    rw [htasks]
    exact h.tasks_nodup
  · intro t ht hreq
    obtain ⟨b, hb, htask, hw⟩ := hbooked t ht hreq
    exact ⟨f b, List.mem_map_of_mem hb, (hsame b).1.trans htask, hw⟩
  · intro b₁ hb₁ b₂ hb₂ hne hor
    obtain ⟨b, hb, rfl⟩ := List.mem_map.mp hb₁
    obtain ⟨b', hb', rfl⟩ := List.mem_map.mp hb₂
    obtain ⟨htask, hsurface, hloads⟩ := hsame b
    obtain ⟨htask', hsurface', hloads'⟩ := hsame b'
    rw [htask, htask'] at hne
    rw [hsurface, hsurface'] at hor
    rw [Batch.Apart, hloads, hloads']
    exact h.apart b hb b' hb' hne (hor.imp_right fun hk => ⟨hkept b hb hk.1, hkept b' hb' hk.2⟩)
  · intro entry hentry
    obtain ⟨b, hb, hsurface, hmem⟩ := h.handed entry hentry
    obtain ⟨-, hs, hloads⟩ := hsame b
    exact ⟨f b, List.mem_map_of_mem hb, hs.trans hsurface, hloads ▸ hmem⟩

theorem Books.still (h : Books sch w l) (hs : w.Still w') (horderly : sch'.Orderly w')
    (hsound : w'.registry.Sound) : Books sch' w' l := by
  have hrequests : ((w'.dispatched.filter (·.request == .grammarLoaded)).map
      Dispatched.surface).Perm
      (((l.batches.map id).filter (·.standing == .answered)).map Batch.surface) := by
    rw [hs.dispatched_eq, List.map_id]
    exact h.requests
  have hmapped := h.mapped (f := id) horderly hsound (fun _ => ⟨rfl, rfl, rfl⟩)
    (fun b hb => (h.good b hb).still hs) (fun b hb hk => hk.still hs (h.good b hb).surface_lt)
    (fun t ht hreq => h.booked t ((hs.waiters t hreq).mp ht) hreq) hrequests
  rwa [List.map_id] at hmapped

theorem Books.eq_of_task_eq (h : Books sch w l) {b b' : Batch} (hb : b ∈ l.batches)
    (hb' : b' ∈ l.batches) (ht : b.task = b'.task) : b = b' :=
  List.inj_on_of_nodup_map h.tasks_nodup hb hb' ht

theorem Books.task_of_waiting (h : Books sch w l) {b : Batch} (hb : b ∈ l.batches)
    (hw : b.standing = .waiting) {t : SurfaceTask} (ht : t ∈ w.tasks) (hid : t.id = b.task) :
    t.surface = b.surface ∧ ∃ done pending, t.awaited = .loads pending ∧ b.loads = done ++ pending ∧
      ∀ x ∈ done, w.registry.isFinished x = true := by
  obtain ⟨done, pending, hmem, hloads, hdone⟩ := (h.good b hb).waiting hw
  obtain rfl := h.orderly.numbered.eq_of_id_eq ht hmem hid
  exact ⟨rfl, done, pending, rfl, hloads, hdone⟩

/-- A batch that waits for a living surface is the one that the scheduler remembers. -/
theorem Books.attached_of_waiting (h : Books sch w l) {b : Batch} (hb : b ∈ l.batches)
    (hw : b.standing = .waiting) (hlive : w.isLive b.surface = true) :
    sch.liveSurface? w = some b.surface ∧ sch.batch? = some b.task := by
  obtain ⟨done, pending, hmem, -, -⟩ := (h.good b hb).waiting hw
  obtain ⟨hsurface, hbatch⟩ := h.orderly.waiter _ hmem rfl hlive
  exact ⟨Option.filter_eq_some_iff.mpr ⟨hsurface, hlive⟩, hbatch⟩

/-- The surface of a batch that waits, but not for the task that the scheduler remembers, is
gone. -/
theorem Books.dead_of_batch?_ne (h : Books sch w l) {b : Batch} (hb : b ∈ l.batches)
    (hw : b.standing = .waiting) (hne : sch.batch? ≠ some b.task) : w.isLive b.surface = false := by
  rw [Bool.eq_false_iff]
  exact fun hlive => hne (h.attached_of_waiting hb hw hlive).2

/-! ### What is written -/

theorem Books.next_still (h : Books sch w l) (hs : w.Still w') (hw' : w'.Numbered)
    (surface? : Option Nat) : l.next surface? w w' [] = l := by
  have hbatches : l.batches.map (Batch.next w w' []) = l.batches := by
    refine (List.map_congr_left ?_).trans l.batches.map_id
    intro b hb
    by_cases hw : b.standing = .waiting
    · obtain ⟨done, pending, ht, -, -⟩ := (h.good b hb).waiting hw
      rw [Batch.next_of_mem h.orderly.numbered hw' hw ht
        ((hs.waiters _ rfl).mpr ht) List.drop_length]
      simp
    · exact Batch.next_of_not_waiting hw
  rw [l.next_nil surface? fun t ht hreq =>
    h.orderly.numbered.id_lt t ((hs.waiters t hreq).mp ht), hbatches]

/-- What is written when tasks are the same, but for a queue that has become longer or shorter. -/
theorem Books.map_next_setAwaited (h : Books sch w l) {t : SurfaceTask}
    {pending pending' : List Load} (ht : t ∈ w.tasks) (hpending : t.awaited = .loads pending)
    (given : List Load) {b : Batch} (hb : b ∈ l.batches) (hw : b.standing = .waiting) :
    b.next w (w.setAwaited t.id (.loads pending')) given =
      { b with
        loads :=
          if some t.id = some b.task then b.loads ++ pending'.drop pending.length else b.loads
        since := b.since ++ given } := by
  obtain ⟨done, rest, hmem, -, -⟩ := (h.good b hb).waiting hw
  have hnumbered := h.orderly.numbered
  by_cases htask : t.id = b.task
  · have heq := hnumbered.eq_of_id_eq ht hmem htask
    obtain rfl : pending = rest := by simpa [hpending] using congrArg SurfaceTask.awaited heq
    have hself :
        ⟨b.task, b.surface, .loads pending'⟩ ∈ (w.setAwaited t.id (.loads pending')).tasks :=
      Timeline.mem_setAwaited_self _ hmem htask.symm
    rw [Batch.next_of_mem hnumbered (hnumbered.setAwaited _ _) hw hmem hself rfl]
    simp [htask]
  · have hsame := Timeline.mem_setAwaited_of_ne (.loads pending') hmem (Ne.symm htask)
    rw [Batch.next_of_mem hnumbered (hnumbered.setAwaited _ _) hw hmem hsame List.drop_length]
    simp [htask]

theorem Books.map_next_of_subset (h : Books sch w l) (hw' : w'.Numbered)
    (hsub : ∀ t ∈ w.tasks, t ∈ w'.tasks) (given : List Load) :
    l.batches.map (Batch.next w w' given) = l.batches.map (Batch.note none given) := by
  apply List.map_congr_left
  intro b hb
  by_cases hw : b.standing = .waiting
  · obtain ⟨done, rest, hmem, -, -⟩ := (h.good b hb).waiting hw
    rw [Batch.next_of_mem h.orderly.numbered hw' hw hmem (hsub _ hmem) List.drop_length,
      Batch.note_of_waiting hw]
    simp
  · rw [Batch.next_of_not_waiting hw, Batch.note_of_not_waiting hw]

/-! ### Counting -/

/-- The batches that wait are those whose follow-up is under way. -/
theorem Books.waiting_iff (h : Books sch w l) {b : Batch} (hb : b ∈ l.batches) :
    b.standing = .waiting ↔
      ∃ t ∈ w.tasks, t.id = b.task ∧ t.awaited.request = .grammarLoaded := by
  constructor
  · intro hw
    obtain ⟨done, pending, ht, -, -⟩ := (h.good b hb).waiting hw
    exact ⟨_, ht, rfl, rfl⟩
  · rintro ⟨t, ht, hid, hreq⟩
    obtain ⟨b', hb', htask, hw⟩ := h.booked t ht hreq
    rw [h.eq_of_task_eq hb hb' (hid.symm.trans htask.symm)]
    exact hw

/-- Each answered batch has a load of its own. -/
theorem Books.length_answered_le (h : Books sch w l) :
    (l.batches.filter (·.standing == .answered)).length ≤ w.registry.nextId - 1 := by
  have hfirst : ∀ b ∈ l.batches, ∃ x ∈ b.loads, (b.loads.head?.map Load.id).getD 0 = x.id := by
    intro b hb
    obtain ⟨x, xs, hloads⟩ := List.exists_cons_of_ne_nil (h.good b hb).loads_ne
    exact ⟨x, by simp [hloads], by simp [hloads]⟩
  have hanswered : ∀ b ∈ l.batches.filter (·.standing == .answered),
      b ∈ l.batches ∧ b.standing = .answered := by
    intro b hb
    simpa using hb
  have hnodup : ((l.batches.filter (·.standing == .answered)).map
      fun b => (b.loads.head?.map Load.id).getD 0).Nodup := by
    refine List.Nodup.map_on ?_ (h.tasks_nodup.of_map.filter _)
    intro b hb b' hb' heq
    obtain ⟨hmem, ha⟩ := hanswered b hb
    obtain ⟨hmem', ha'⟩ := hanswered b' hb'
    by_cases htask : b.task = b'.task
    · exact h.eq_of_task_eq hmem hmem' htask
    · obtain ⟨x, hx, hxid⟩ := hfirst b hmem
      obtain ⟨y, hy, hyid⟩ := hfirst b' hmem'
      have hids : x.id = y.id := hxid.symm.trans (heq.trans hyid)
      exact absurd hids (h.apart b hmem b' hmem' htask (Or.inr ⟨Or.inl ha, Or.inl ha'⟩) x hx y hy)
  have hsub : ((l.batches.filter (·.standing == .answered)).map
      fun b => (b.loads.head?.map Load.id).getD 0) ⊆ List.range' 1 (w.registry.nextId - 1) := by
    intro i hi
    obtain ⟨b, hb, rfl⟩ := List.mem_map.mp hi
    obtain ⟨hmem, -⟩ := hanswered b hb
    obtain ⟨x, hx, hxid⟩ := hfirst b hmem
    obtain ⟨hpos, hlt⟩ := (h.good b hmem).ids x hx
    rw [hxid, List.mem_range'_1]
    omega
  have hle := (List.subperm_of_subset hnodup hsub).length_le
  rwa [List.length_map, List.length_range'] at hle

end Highlight
