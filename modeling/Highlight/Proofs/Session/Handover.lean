import Highlight.Proofs.Session.Books

/-!
# Loads that are handed over

New loads are under way when they are handed over, so they are in no batch that was answered before.
They join the batch of the follow-up that waits for the living surface, or a batch is opened for
them; no other batch of a living surface is waiting.
-/

namespace Highlight

variable {w : Timeline} {sch sch' : Scheduler} {l : Ledger} {given : List Load} {n : Nat}

def Registry.LoadingAll (r : Registry) (given : List Load) : Prop :=
  ∀ x ∈ given, ∃ tag failures, r.slots.get? tag = some (.loading failures x.id)

theorem Registry.Sound.ids_of_loading {r : Registry} (h : r.Sound) (hgiven : r.LoadingAll given) :
    ∀ x ∈ given, 1 ≤ x.id ∧ x.id < r.nextId := by
  intro x hx
  obtain ⟨tag, failures, hslot⟩ := hgiven x hx
  exact ⟨h.loading_pos hslot, h.loading_lt hslot⟩

theorem Books.apart_of_answered (h : Books sch w l) {b : Batch} (hb : b ∈ l.batches)
    (ha : b.standing = .answered) (hgiven : w.registry.LoadingAll given) {x y : Load}
    (hx : x ∈ given) (hy : y ∈ b.loads) : x.id ≠ y.id := by
  obtain ⟨tag, failures, hslot⟩ := hgiven x hx
  intro heq
  rw [heq] at hslot
  exact h.sound.not_loading ((h.good b hb).answered ha y hy) tag failures hslot

/-- Any other batch of a living surface has been answered. -/
theorem Books.answered_of_kept (h : Books sch w l) (hlive : w.isLive n = true) {b : Batch}
    (hb : b ∈ l.batches) (hdead : b.standing = .waiting → w.isLive b.surface = false)
    (hor : b.surface = n ∨ b.Kept w) : b.standing = .answered := by
  cases hst : b.standing with
  | answered => rfl
  | waiting =>
      have hno := hdead hst
      rcases hor with rfl | hk | ⟨-, hk⟩
      · simp [hlive] at hno
      · simp [hst] at hk
      · simp [hk] at hno
  | dropped =>
      have hno := (h.good b hb).dropped hst
      rcases hor with rfl | hk | ⟨hk, -⟩
      · simp [hlive] at hno
      · simp [hst] at hk
      · simp [hst] at hk

theorem Batch.Good.noted {b : Batch} (h : b.Good w) (hw : b.standing = .waiting)
    (hdead : w.isLive b.surface = false) (since : List Load) : Batch.Good w { b with since } := by
  refine ⟨h.task_lt, h.surface_lt, h.loads_ne, h.ids, h.waiting, h.answered, h.dropped, ?_⟩
  rintro (ha | ⟨-, hlive⟩)
  · exact absurd (hw.symm.trans ha) Standing.noConfusion
  · rw [hdead] at hlive
    exact absurd hlive Bool.false_ne_true

theorem Batch.Good.joined {b : Batch} (h : b.Good w) (hw : b.standing = .waiting)
    (hnumbered : w.Numbered) {pending : List Load}
    (ht : ⟨b.task, b.surface, .loads pending⟩ ∈ w.tasks)
    (hids : ∀ x ∈ given, 1 ≤ x.id ∧ x.id < w.registry.nextId) (hlive : w.isLive b.surface = true) :
    Batch.Good (w.setAwaited b.task (.loads (pending ++ given)))
      { b with loads := b.loads ++ given, since := b.since ++ given } := by
  obtain ⟨done, rest, hmem, hsplit, hdone⟩ := h.waiting hw
  obtain rfl : pending = rest := by simpa using hnumbered.eq_of_id_eq ht hmem rfl
  refine ⟨h.task_lt, h.surface_lt, ?_, ?_, ?_, ?_, ?_, ?_⟩
  · exact List.append_ne_nil_of_left_ne_nil h.loads_ne given
  · intro x hx
    rcases List.mem_append.mp hx with hx | hx
    · exact h.ids x hx
    · exact hids x hx
  · intro _
    refine ⟨done, pending ++ given, Timeline.mem_setAwaited_self _ ht rfl, ?_, hdone⟩
    simp [hsplit]
  · exact fun ha => absurd (hw.symm.trans ha) Standing.noConfusion
  · exact fun hd => absurd (hw.symm.trans hd) Standing.noConfusion
  · intro _
    simp [h.since_eq (Or.inr ⟨hw, hlive⟩)]

/-- While no batch waits for a living surface, loads join none. -/
theorem Books.noted (h : Books sch w l) (given : List Load)
    (hdead : ∀ b ∈ l.batches, b.standing = .waiting → w.isLive b.surface = false) :
    Books sch w { l with batches := l.batches.map (Batch.note none given) } := by
  have hgood : ∀ b ∈ l.batches, (b.note none given).Good w := by
    intro b hb
    by_cases hw : b.standing = .waiting
    · have hnoted := (h.good b hb).noted hw (hdead b hb hw) (b.since ++ given)
      simpa [Batch.note_of_waiting hw] using hnoted
    · rw [Batch.note_of_not_waiting hw]
      exact h.good b hb
  have hkept : ∀ b ∈ l.batches, (b.note none given).Kept w → b.Kept w := by
    intro b _ hk
    simpa [Batch.Kept] using hk
  have hbooked : ∀ t ∈ w.tasks, t.awaited.request = .grammarLoaded →
      ∃ b ∈ l.batches, b.task = t.id ∧ (b.note none given).standing = .waiting := by
    simpa using h.booked
  refine h.mapped h.orderly h.sound (fun b => ⟨?_, ?_, ?_⟩) hgood hkept hbooked ?_
  · exact Batch.note_task none
  · exact Batch.note_surface none
  · exact Batch.note_none_loads
  · rw [Batch.answered_map _ (by simp) fun _ => Batch.note_surface none]
    exact h.requests

theorem Books.opened (h : Books sch w l) (horderly : sch'.Orderly (w.spawn n (.loads given)).2)
    (hlive : w.isLive n = true) (hne : given ≠ []) (hgiven : w.registry.LoadingAll given)
    (hdead : ∀ b ∈ l.batches, b.standing = .waiting → w.isLive b.surface = false) :
    Books sch' (w.spawn n (.loads given)).2
      { batches := l.batches ++ [⟨w.nextTask, n, given, given, .waiting⟩]
        handed := l.handed ++ given.map fun load => (n, load) } := by
  have hold : ∀ b ∈ l.batches, b.Good (w.spawn n (.loads given)).2 := by
    intro b hb
    obtain ⟨htask, hsurface, hloads, hids, hwaiting, hanswered, hdropped, hsince⟩ := h.good b hb
    refine ⟨Nat.lt_succ_of_lt htask, hsurface, hloads, hids, ?_, hanswered, hdropped, hsince⟩
    intro hw
    obtain ⟨done, pending, ht, hsplit, hdone⟩ := hwaiting hw
    exact ⟨done, pending, (Timeline.mem_spawn n _ _).mpr (Or.inl ht), hsplit, hdone⟩
  have hnew : Batch.Good (w.spawn n (.loads given)).2 ⟨w.nextTask, n, given, given, .waiting⟩ := by
    refine ⟨Nat.lt_succ_self _, Timeline.isLive_lt hlive, hne, h.sound.ids_of_loading hgiven, ?_,
      ?_, ?_, fun _ => rfl⟩
    · exact fun _ => ⟨[], given, (Timeline.mem_spawn n _ _).mpr (Or.inr rfl), rfl, by simp⟩
    · simp
    · simp
  have hapart : ∀ b ∈ l.batches, b.surface = n ∨ b.Kept w →
      ∀ x ∈ given, ∀ y ∈ b.loads, x.id ≠ y.id := by
    intro b hb hor x hx y hy
    exact h.apart_of_answered hb (h.answered_of_kept hlive hb (hdead b hb) hor) hgiven hx hy
  refine ⟨horderly, h.sound, ?_, ?_, ?_, ?_, ?_, ?_⟩
  · intro b hb
    rcases List.mem_append.mp hb with hb | hb
    · exact hold b hb
    · rw [List.mem_singleton.mp hb]
      exact hnew
  · have hnot : w.nextTask ∉ l.batches.map Batch.task := by
      intro hmem
      obtain ⟨b, hb, htask⟩ := List.mem_map.mp hmem
      exact absurd (h.good b hb).task_lt (by omega)
    simp only [List.map_append, List.map_cons, List.map_nil]
    exact List.nodup_append_comm.mp (List.nodup_cons.mpr ⟨hnot, h.tasks_nodup⟩)
  · intro t ht hreq
    rcases (Timeline.mem_spawn n _ t).mp ht with ht | rfl
    · obtain ⟨b, hb, htask, hw⟩ := h.booked t ht hreq
      exact ⟨b, List.mem_append_left _ hb, htask, hw⟩
    · exact ⟨_, List.mem_append_right _ List.mem_cons_self, rfl, rfl⟩
  · intro b hb b' hb' htasks hor x hx y hy
    rcases List.mem_append.mp hb with hb | hb <;> rcases List.mem_append.mp hb' with hb' | hb'
    · exact h.apart b hb b' hb' htasks hor x hx y hy
    · obtain rfl := List.mem_singleton.mp hb'
      exact (hapart b hb (hor.imp_right And.left) y hy x hx).symm
    · obtain rfl := List.mem_singleton.mp hb
      exact hapart b' hb' (hor.imp Eq.symm And.right) x hx y hy
    · rw [List.mem_singleton.mp hb, List.mem_singleton.mp hb'] at htasks
      exact absurd rfl htasks
  · intro entry hentry
    rcases List.mem_append.mp hentry with hentry | hentry
    · obtain ⟨b, hb, hsurface, hmem⟩ := h.handed entry hentry
      exact ⟨b, List.mem_append_left _ hb, hsurface, hmem⟩
    · obtain ⟨load, hload, rfl⟩ := List.mem_map.mp hentry
      exact ⟨_, List.mem_append_right _ List.mem_cons_self, rfl, hload⟩
  · simpa [Timeline.spawn, List.filter_append] using h.requests

theorem Books.good_joined (h : Books sch w l) {t : SurfaceTask} {pending : List Load}
    (ht : t ∈ w.tasks) (hbatch : sch.batch? = some t.id) (hpending : t.awaited = .loads pending)
    (hlive : w.isLive t.surface = true) (hgiven : w.registry.LoadingAll given) {b : Batch}
    (hb : b ∈ l.batches) :
    (b.note (some t.id) given).Good (w.setAwaited t.id (.loads (pending ++ given))) := by
  have hgood := h.good b hb
  by_cases hw : b.standing = .waiting
  · rw [Batch.note_of_waiting hw]
    by_cases htask : t.id = b.task
    · obtain ⟨hsurface, -⟩ := h.task_of_waiting hb hw ht htask
      have hmem : ⟨b.task, b.surface, .loads pending⟩ ∈ w.tasks := by
        rw [← htask, ← hsurface, ← hpending]
        exact ht
      have hjoined := hgood.joined hw h.orderly.numbered hmem (h.sound.ids_of_loading hgiven)
        (hsurface ▸ hlive)
      simpa [htask] using hjoined
    · have hne : sch.batch? ≠ some b.task := by
        rw [hbatch]
        exact fun heq => htask (Option.some.inj heq)
      have hnoted := hgood.noted hw (h.dead_of_batch?_ne hb hw hne) (b.since ++ given)
      have hmoved := hnoted.setAwaited_of_ne (fun _ => Ne.symm htask) (.loads (pending ++ given))
      simpa [htask] using hmoved
  · rw [Batch.note_of_not_waiting hw]
    exact hgood.setAwaited_of_ne (fun hw' => absurd hw' hw) _

theorem Books.joined (h : Books sch w l) {t : SurfaceTask} {pending : List Load} (ht : t ∈ w.tasks)
    (hbatch : sch.batch? = some t.id) (hpending : t.awaited = .loads pending)
    (hlive : sch.liveSurface? w = some n) (hgiven : w.registry.LoadingAll given) :
    Books sch (w.setAwaited t.id (.loads (pending ++ given)))
      { batches := l.batches.map (Batch.note (some t.id) given)
        handed := l.handed ++ given.map fun load => (n, load) } := by
  obtain ⟨hattached, hn⟩ := Option.filter_eq_some_iff.mp hlive
  have hreq : t.awaited.request = .grammarLoaded := by
    rw [hpending]
    rfl
  obtain ⟨bt, hbt, hbttask, hbtw⟩ := h.booked t ht hreq
  have htn : t.surface = n := by
    rw [h.orderly.batch_surface t ht hbatch] at hattached
    exact Option.some.inj hattached
  have hsurface : bt.surface = n := (h.task_of_waiting hbt hbtw ht hbttask.symm).1.symm.trans htn
  -- all other batches of living surfaces are answered, so no new load is in them
  have hother : ∀ b ∈ l.batches, b.task ≠ t.id → b.surface = n ∨ b.Kept w →
      ∀ x ∈ given, ∀ y ∈ b.loads, x.id ≠ y.id := by
    intro b hb hne hor x hx y hy
    have hdead : b.standing = .waiting → w.isLive b.surface = false := by
      intro hw
      apply h.dead_of_batch?_ne hb hw
      rw [hbatch]
      exact fun heq => hne (Option.some.inj heq).symm
    exact h.apart_of_answered hb (h.answered_of_kept hn hb hdead hor) hgiven hx hy
  refine ⟨h.orderly.setAwaited ht hreq _, h.sound, ?_, ?_, ?_, ?_, ?_, ?_⟩
  · intro b' hb'
    obtain ⟨b, hb, rfl⟩ := List.mem_map.mp hb'
    exact h.good_joined ht hbatch hpending (htn ▸ hn) hgiven hb
  · simpa [List.map_map, Function.comp_def] using h.tasks_nodup
  · intro u hu hureq
    obtain ⟨b, hb, htask, hw⟩ : ∃ b ∈ l.batches, b.task = u.id ∧ b.standing = .waiting := by
      rcases Timeline.mem_setAwaited hu with ⟨hold, -⟩ | ⟨v, hv, hvid, rfl⟩
      · exact h.booked u hold hureq
      · rw [h.orderly.numbered.eq_of_id_eq hv ht hvid]
        exact ⟨bt, hbt, hbttask, hbtw⟩
    exact ⟨_, List.mem_map_of_mem hb, by simpa using htask, by simpa using hw⟩
  · intro b₁ hb₁ b₂ hb₂ hne hor x hx y hy
    obtain ⟨b, hb, rfl⟩ := List.mem_map.mp hb₁
    obtain ⟨b', hb', rfl⟩ := List.mem_map.mp hb₂
    simp only [Batch.Kept, Batch.note_task, Batch.note_surface, Batch.note_standing] at hne hor
    rcases Batch.mem_note hx with hx | ⟨htask, hx⟩ <;>
      rcases Batch.mem_note hy with hy | ⟨htask', hy⟩
    · exact h.apart b hb b' hb' hne hor x hx y hy
    · obtain rfl := h.eq_of_task_eq hb' hbt (htask'.trans hbttask.symm)
      exact (hother b hb (htask' ▸ hne) (hor.imp (·.trans hsurface) And.left) y hy x hx).symm
    · obtain rfl := h.eq_of_task_eq hb hbt (htask.trans hbttask.symm)
      exact hother b' hb' (htask ▸ hne.symm) (hor.imp (·.symm.trans hsurface) And.right) x hx y hy
    · exact absurd (htask.trans htask'.symm) hne
  · intro entry hentry
    rcases List.mem_append.mp hentry with hentry | hentry
    · obtain ⟨b, hb, hs, hmem⟩ := h.handed entry hentry
      exact ⟨_, List.mem_map_of_mem hb, by simpa using hs, Batch.mem_note_of_mem _ hmem⟩
    · obtain ⟨load, hload, rfl⟩ := List.mem_map.mp hentry
      refine ⟨_, List.mem_map_of_mem hbt, by simpa using hsurface, ?_⟩
      rw [Batch.note_of_waiting hbtw, hbttask]
      simp [hload]
  · rw [Batch.answered_map _ (by simp) fun _ => Batch.note_surface _]
    exact h.requests

/-! ### What is written -/

theorem Books.next_dead (h : Books sch w l) (given : List Load) :
    l.next none w w given = { l with batches := l.batches.map (Batch.note none given) } := by
  have hnew : w.tasks.filterMap (Batch.ofTask? w given) = [] :=
    Batch.filterMap_ofTask?_eq_nil fun t ht _ => h.orderly.numbered.id_lt t ht
  simp only [Ledger.next, hnew, List.append_nil,
    h.map_next_of_subset h.orderly.numbered (fun _ ht => ht) given]

theorem Books.next_joined (h : Books sch w l) {t : SurfaceTask} {pending : List Load}
    (ht : t ∈ w.tasks) (hpending : t.awaited = .loads pending) (n : Nat) (given : List Load) :
    l.next (some n) w (w.setAwaited t.id (.loads (pending ++ given))) given =
      { batches := l.batches.map (Batch.note (some t.id) given)
        handed := l.handed ++ given.map fun load => (n, load) } := by
  have hbatches :
      l.batches.map (Batch.next w (w.setAwaited t.id (.loads (pending ++ given))) given) =
      l.batches.map (Batch.note (some t.id) given) := by
    apply List.map_congr_left
    intro b hb
    by_cases hw : b.standing = .waiting
    · rw [h.map_next_setAwaited ht hpending given hb hw, List.drop_left, Batch.note_of_waiting hw]
    · rw [Batch.next_of_not_waiting hw, Batch.note_of_not_waiting hw]
  have hnew : (w.setAwaited t.id (.loads (pending ++ given))).tasks.filterMap
      (Batch.ofTask? w given) = [] :=
    Batch.filterMap_ofTask?_eq_nil fun u hu _ => (h.orderly.numbered.setAwaited _ _).id_lt u hu
  simp only [Ledger.next, hbatches, hnew, List.append_nil]

theorem Books.next_opened (h : Books sch w l) (hn : w.isLive n = true) (given : List Load) :
    l.next (some n) w (w.spawn n (.loads given)).2 given =
      { batches :=
          l.batches.map (Batch.note none given) ++ [⟨w.nextTask, n, given, given, .waiting⟩]
        handed := l.handed ++ given.map fun load => (n, load) } := by
  have hold : w.tasks.filterMap (Batch.ofTask? w given) = [] :=
    Batch.filterMap_ofTask?_eq_nil fun t ht _ => h.orderly.numbered.id_lt t ht
  have hnew : (w.spawn n (.loads given)).2.tasks.filterMap (Batch.ofTask? w given) =
      [⟨w.nextTask, n, given, given, .waiting⟩] := by
    simp [Timeline.spawn, List.filterMap_append, hold, Batch.ofTask?]
  have hsub : ∀ t ∈ w.tasks, t ∈ (w.spawn n (.loads given)).2.tasks :=
    fun t ht => (Timeline.mem_spawn n _ t).mpr (Or.inl ht)
  simp only [Ledger.next, hnew, h.map_next_of_subset (h.orderly.numbered.spawn hn _) hsub given]

theorem Books.followUp (h : Books sch w l) (hgiven : w.registry.LoadingAll given) :
    Books (sch.followUp w given).1 (sch.followUp w given).2
      (l.next (sch.liveSurface? w) w (sch.followUp w given).2 given) := by
  have hf := h.orderly.followed given
  have horderly := h.orderly.followUp given
  generalize sch.followUp w given = result at hf horderly ⊢
  cases hf with
  | nothing hnone =>
      rcases hnone with rfl | hnone
      · rw [h.next_still (.refl w) h.orderly.numbered]
        exact h
      · rw [hnone, h.next_dead given]
        apply h.noted given
        intro b hb hw
        rw [Bool.eq_false_iff]
        intro hlive
        rw [(h.attached_of_waiting hb hw hlive).1] at hnone
        exact absurd hnone (Option.some_ne_none _)
  | joined t pending ht hbatch hpending hlive hne =>
      obtain ⟨n, hn⟩ := Option.ne_none_iff_exists'.mp hlive
      rw [hn, h.next_joined ht hpending n given]
      exact h.joined ht hbatch hpending hn hgiven
  | opened n hlive hne hclosed =>
      obtain ⟨-, hn⟩ := Option.filter_eq_some_iff.mp hlive
      have hdead : ∀ b ∈ l.batches, b.standing = .waiting → w.isLive b.surface = false := by
        intro b hb hw
        obtain ⟨done, rest, hmem, -, -⟩ := (h.good b hb).waiting hw
        exact h.dead_of_batch?_ne hb hw fun hbatch => hclosed _ hmem hbatch rfl
      rw [hlive, h.next_opened hn given]
      apply (h.noted given hdead).opened horderly hn hne hgiven
      intro b' hb' hw
      obtain ⟨b, hb, rfl⟩ := List.mem_map.mp hb'
      rw [Batch.note_standing] at hw
      rw [Batch.note_surface]
      exact hdead b hb hw

end Highlight
