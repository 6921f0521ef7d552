import Highlight.Proofs.Session.Moves
import Mathlib.Data.List.Induction

/-!
# Torn down for good

Of all surfaces that were ever mounted, only the attached one can be alive, and each task belongs to
a surface that was mounted.  So a task that can still make a request was started for the attached
surface, and since then nothing was mounted or unmounted, and the surface was not torn down.
-/

namespace Highlight

namespace Session

/-- The surfaces that the acts of a run mount. -/
def mounted (s : Session) : List Act → List Nat
  | [] => []
  | a :: as => (s.mounts? a).toList ++ (s.act a).mounted as

/-- Some act of a run has started a task that makes this request for the surface, and all later acts
spare the surface. -/
def Scheduled (s : Session) (acts : List Act) (n : Nat) (r : Request) : Prop :=
  ∃ before a after, acts = before ++ a :: after ∧ (s.run before).Starts a n r ∧
    ((s.run before).act a).Along (Spares n) after

variable {s : Session} {a : Act} {ms : List Nat} {n : Nat}

theorem mounted_append (as bs : List Act) :
    s.mounted (as ++ bs) = s.mounted as ++ (s.run as).mounted bs := by
  induction as generalizing s with
  | nil => rfl
  | cons a as ih => simp [mounted, ih]

theorem mounted_concat (as : List Act) (a : Act) :
    s.mounted (as ++ [a]) = s.mounted as ++ ((s.run as).mounts? a).toList := by
  simp [mounted_append, mounted]

/-- Only the attached surface can be alive, of those that were mounted. -/
structure Attended (ms : List Nat) (s : Session) : Prop where
  orderly : s.pass.scheduler.Orderly s.timeline
  known : ∀ n ∈ ms, n < s.timeline.surfaces.length
  attached : ∀ n ∈ ms, s.timeline.isLive n = true → s.pass.scheduler.surface? = some n
  surface_mem : ∀ n, s.pass.scheduler.surface? = some n → n ∈ ms
  task_mem : ∀ t ∈ s.timeline.tasks, t.surface ∈ ms

theorem attended_opened (depot : Depot) (settings : Settings) (doc : Document) :
    (opened depot settings doc).Attended [] := by
  refine ⟨(wakeful_opened depot settings doc).orderly, by simp, by simp, ?_, ?_⟩
  all_goals simp [opened, Session.start, Timeline.addSurface, Pass.ofSettings]

/-- A mounted surface that is alive after an act was spared. -/
theorem Attended.spares (h : s.Attended ms) (hn : n ∈ ms)
    (hlive : (s.act a).timeline.isLive n = true) :
    s.timeline.isLive n = true ∧ s.Spares n a := by
  obtain ⟨hbefore, hspares⟩ := (moved h.orderly a).live n (h.known n hn) hlive
  exact ⟨hbefore, hspares (h.attached n hn hbefore)⟩

theorem Attended.act (h : s.Attended ms) (a : Act) :
    (s.act a).Attended (ms ++ (s.mounts? a).toList) := by
  have hm := moved h.orderly a
  have hsurface : ∀ n, (s.act a).pass.scheduler.surface? = some n →
      n ∈ ms ++ (s.mounts? a).toList := by
    intro n hn
    cases hmounts : s.mounts? a with
    | some m =>
        obtain rfl : m = n := by simpa [hn] using (hm.mounted m hmounts).1.symm
        simp
    | none =>
        by_cases hunmount : a = .unmount
        · simp [hm.unmounted hunmount] at hn
        · rw [hm.attached hmounts hunmount] at hn
          exact List.mem_append_left _ (h.surface_mem n hn)
  refine ⟨orderly_act h.orderly a, ?_, ?_, hsurface, ?_⟩
  · intro n hn
    rcases List.mem_append.mp hn with hold | hnew
    · exact Nat.lt_of_lt_of_le (h.known n hold) hm.length_le
    · exact (hm.mounted n (Option.mem_toList.mp hnew)).2
  · intro n hn hlive
    rcases List.mem_append.mp hn with hold | hnew
    · obtain ⟨hbefore, hspares⟩ := h.spares hold hlive
      rw [hm.attached hspares.mounts?_eq hspares.ne_unmount]
      exact h.attached n hold hbefore
    · exact (hm.mounted n (Option.mem_toList.mp hnew)).1
  · intro t ht
    rcases hm.task t ht with ⟨u, hu, -, hsame, -⟩ | ⟨hattached, -⟩
    · exact List.mem_append_left _ (hsame ▸ h.task_mem u hu)
    · exact hsurface t.surface hattached

theorem attended_run (depot : Depot) (settings : Settings) (doc : Document) (acts : List Act) :
    ((opened depot settings doc).run acts).Attended ((opened depot settings doc).mounted acts) := by
  induction acts using List.reverseRecOn with
  | nil => exact attended_opened depot settings doc
  | append_singleton acts a ih =>
      rw [mounted_concat, run_append]
      exact ih.act a

/-- At most one of the surfaces that were mounted is alive. -/
theorem Attended.eq_of_live {m : Nat} (h : s.Attended ms) (hn : n ∈ ms) (hm : m ∈ ms)
    (hnlive : s.timeline.isLive n = true) (hmlive : s.timeline.isLive m = true) : n = m :=
  Option.some.inj ((h.attached n hn hnlive).symm.trans (h.attached m hm hmlive))

/-! ### Where requests come from -/

theorem Scheduled.concat {acts : List Act} {r : Request} (h : s.Scheduled acts n r)
    (ha : (s.run acts).Spares n a) : s.Scheduled (acts ++ [a]) n r := by
  obtain ⟨before, b, after, rfl, hstarts, hspares⟩ := h
  refine ⟨before, b, after ++ [a], by simp, hstarts, (along_append after [a]).mpr ⟨hspares, ?_⟩⟩
  rw [run_append, run_cons] at ha
  exact ⟨ha, trivial⟩

theorem scheduled_of_starts {acts : List Act} {r : Request} (h : (s.run acts).Starts a n r) :
    s.Scheduled (acts ++ [a]) n r :=
  ⟨acts, a, [], rfl, h, trivial⟩

/-- The task of a living surface was started for it, and the surface has been spared since. -/
theorem scheduled_of_task (depot : Depot) (settings : Settings) (doc : Document) (acts : List Act)
    {t : SurfaceTask} (ht : t ∈ ((opened depot settings doc).run acts).timeline.tasks)
    (hlive : ((opened depot settings doc).run acts).timeline.isLive t.surface = true) :
    (opened depot settings doc).Scheduled acts t.surface t.awaited.request := by
  induction acts using List.reverseRecOn generalizing t with
  | nil => simp [opened, Session.start, Timeline.addSurface] at ht
  | append_singleton acts a ih =>
      have hattended := attended_run depot settings doc acts
      rw [run_append] at ht hlive
      rcases (moved hattended.orderly a).task t ht with ⟨u, hu, -, hsurface, hrequest, -⟩ |
        ⟨-, hstarts⟩
      · have hmem := hattended.task_mem u hu
        rw [← hsurface] at hlive
        obtain ⟨hbefore, hspares⟩ := hattended.spares hmem hlive
        rw [← hsurface, ← hrequest]
        exact (ih hu hbefore).concat hspares
      · exact scheduled_of_starts hstarts

/-- A request is made while its surface is alive. -/
theorem dispatched_act (depot : Depot) (settings : Settings) (doc : Document) (acts : List Act)
    (a : Act) :
    let s := (opened depot settings doc).run acts
    ∃ made, (s.act a).timeline.dispatched = s.timeline.dispatched ++ made ∧ made.length ≤ 1 ∧
      ∀ m ∈ made, s.timeline.isLive m.surface = true ∧ m.time = s.timeline.now ∧
        (opened depot settings doc).Scheduled acts m.surface m.request := by
  intro s
  have hattended := attended_run depot settings doc acts
  rcases (moved hattended.orderly a).dispatched with hsame | ⟨t, ht, -, hlive, -, hmade⟩
  · exact ⟨[], by rw [hsame, List.append_nil], Nat.zero_le _, by simp⟩
  · refine ⟨_, hmade, Nat.le_refl _, ?_⟩
    intro m hm
    obtain rfl := List.mem_singleton.mp hm
    exact ⟨hlive, rfl, scheduled_of_task depot settings doc acts ht hlive⟩

end Session

end Highlight
