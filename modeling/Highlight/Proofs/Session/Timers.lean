import Highlight.Proofs.Session.Teardown

/-!
# One deferred pass for each mount

A mount starts at most one timer, and only for a surface that was not mounted before.  The timer
waits until its time comes or its surface is torn down, and asks for one deferred pass then.  On a
clock that does not pass the times of waiting timers, that is at the very time it waits for.
-/

namespace Highlight

namespace Session

/-- The deferred passes asked for on behalf of a surface, without the first `mark` requests. -/
def deferred (s : Session) (mark n : Nat) : List Dispatched :=
  (s.timeline.dispatched.drop mark).filter fun m => m.surface == n && m.request == .deferredPass

/-- The clock does not pass the time of a timer that waits for a living surface. -/
def Timely (s : Session) : Act → Prop
  | .aside (.elapse ms) => ∀ t ∈ s.timeline.tasks, ∀ due, t.awaited = .time due →
      s.timeline.isLive t.surface = true → s.timeline.now + ms ≤ due
  | _ => True

/-- The surface has one timer, and is alive. -/
structure Waiting (due n : Nat) (s : Session) : Prop where
  live : s.timeline.isLive n = true
  timer : ∃ t ∈ s.timeline.tasks, t.surface = n ∧ t.awaited = .time due ∧
    ∀ u ∈ s.timeline.tasks, u.surface = n → u.awaited.request = .deferredPass → u = t

/-- The surface has no timer, or is not alive any more. -/
def Quiet (n : Nat) (s : Session) : Prop :=
  s.timeline.isLive n = true → ∀ t ∈ s.timeline.tasks, t.surface = n →
    t.awaited.request ≠ .deferredPass

variable {s s' : Session} {a : Act} {ms : List Nat} {mark due n : Nat}

theorem deferred_append {made : List Dispatched}
    (h : s'.timeline.dispatched = s.timeline.dispatched ++ made)
    (hmark : mark ≤ s.timeline.dispatched.length) :
    s'.deferred mark n = s.deferred mark n ++
      made.filter fun m => m.surface == n && m.request == .deferredPass := by
  rw [deferred, h, List.drop_append_of_le_length hmark, List.filter_append]
  rfl

theorem deferred_of_other {m : Dispatched}
    (h : s'.timeline.dispatched = s.timeline.dispatched ++ [m])
    (hmark : mark ≤ s.timeline.dispatched.length)
    (hm : ¬ (m.surface = n ∧ m.request = .deferredPass)) :
    s'.deferred mark n = s.deferred mark n := by
  have hfilter : [m].filter (fun m => m.surface == n && m.request == .deferredPass) = [] := by
    simpa using hm
  rw [deferred_append h hmark, hfilter, List.append_nil]

theorem dispatched_le_act (hattended : s.Attended ms) (a : Act) :
    s.timeline.dispatched.length ≤ (s.act a).timeline.dispatched.length := by
  rcases (moved hattended.orderly a).dispatched with hsame | ⟨t, -, -, -, -, hmade⟩
  · rw [hsame]
  · rw [hmade, List.length_append]
    exact Nat.le_add_right _ _

/-- Only the passing of time moves the clock. -/
theorem now_act (s : Session) (a : Act) : (s.act a).timeline.now = s.timeline.now ∨
    ∃ time, a = .aside (.elapse time) ∧ (s.act a).timeline.now = s.timeline.now + time := by
  rcases s.depot_act a with hsame | ⟨doc, htimeline⟩ | ⟨x, rfl⟩
  · exact Or.inl (congrArg Depot.now hsame)
  · left
    rw [htimeline, (s.pass.recompute_followUp s.timeline doc).2]
    exact (congrArg Depot.now (followUp_depot _ _ _)).trans rfl
  · cases x with
    | elapse time => exact Or.inr ⟨time, rfl, rfl⟩
    | poll load => exact Or.inl (s.timeline.depot.polled load).now_eq
    | take =>
        left
        simp only [Session.act, aside, take]
        split <;> rfl
    | _ => exact Or.inl rfl

/-- A mounted surface that is alive after an act has no timer that it did not have before. -/
theorem Attended.timer_before (h : s.Attended ms) (hn : n ∈ ms)
    (hlive : (s.act a).timeline.isLive n = true) {t : SurfaceTask}
    (ht : t ∈ (s.act a).timeline.tasks) (htn : t.surface = n)
    (hrequest : t.awaited.request = .deferredPass) : t ∈ s.timeline.tasks := by
  obtain ⟨-, hspares⟩ := h.spares hn hlive
  rcases (moved h.orderly a).task t ht with ⟨u, hu, -, -, -, hsame⟩ | ⟨-, hstarts⟩
  · exact hsame hrequest ▸ hu
  · rw [hrequest, htn] at hstarts
    cases hstarts with
    | timer hmounts hphase hnlive => simp [hspares.mounts?_eq] at hmounts

/-- A surface that was mounted gets no timer any more. -/
theorem Quiet.act (h : s.Quiet n) (hattended : s.Attended ms) (hn : n ∈ ms)
    (hmark : mark ≤ s.timeline.dispatched.length) (a : Act) :
    (s.act a).Quiet n ∧ (s.act a).deferred mark n = s.deferred mark n := by
  constructor
  · intro hlive t ht htn hrequest
    have hbefore := (hattended.spares hn hlive).1
    exact h hbefore t (hattended.timer_before hn hlive ht htn hrequest) htn hrequest
  · rcases (moved hattended.orderly a).dispatched with hsame | ⟨t, ht, -, hlive, -, hmade⟩
    · rw [deferred, hsame]
      rfl
    · refine deferred_of_other hmade hmark ?_
      rintro ⟨htn, hrequest⟩
      exact h (htn ▸ hlive) t ht htn hrequest

/-- A timer goes on waiting, or asks for its pass, or its surface is torn down. -/
theorem Waiting.act (h : s.Waiting due n) (hattended : s.Attended ms) (hn : n ∈ ms)
    (hmark : mark ≤ s.timeline.dispatched.length) (a : Act) :
    ((s.act a).Waiting due n ∧ (s.act a).deferred mark n = s.deferred mark n) ∨
    ((s.act a).Quiet n ∧ due ≤ s.timeline.now ∧
      (s.act a).deferred mark n =
        s.deferred mark n ++ [⟨n, .deferredPass, s.timeline.now⟩]) ∨
    ((s.act a).timeline.isLive n = false ∧ (s.act a).deferred mark n = s.deferred mark n) := by
  have hm := moved hattended.orderly a
  obtain ⟨t, ht, rfl, htime, honly⟩ := h.timer
  rcases hm.timer t ht due htime h.live with hstays | ⟨hgone, hdue, hmade⟩
  · -- a request that is made is not that of the timer
    have hsame : (s.act a).deferred mark t.surface = s.deferred mark t.surface := by
      rcases hm.dispatched with hsame | ⟨u, hu, hugone, -, -, hmade⟩
      · rw [deferred, hsame]
        rfl
      · refine deferred_of_other hmade hmark ?_
        rintro ⟨hun, hrequest⟩
        exact hugone (honly u hu hun hrequest ▸ hstays)
    cases hlive : (s.act a).timeline.isLive t.surface with
    | false => exact Or.inr (Or.inr ⟨rfl, hsame⟩)
    | true =>
        refine Or.inl ⟨⟨hlive, t, hstays, rfl, htime, ?_⟩, hsame⟩
        intro u hu hun hrequest
        exact honly u (hattended.timer_before hn hlive hu hun hrequest) hun hrequest
  · refine Or.inr (Or.inl ⟨?_, hdue, ?_⟩)
    · intro hlive u hu hun hrequest
      have hbefore := hattended.timer_before hn hlive hu hun hrequest
      exact hgone (honly u hbefore hun hrequest ▸ hu)
    · rw [deferred_append hmade hmark]
      simp

/-! ### Runs -/

theorem Quiet.run (h : s.Quiet n) (hattended : s.Attended ms) (hn : n ∈ ms)
    (hmark : mark ≤ s.timeline.dispatched.length) (acts : List Act) :
    (s.run acts).deferred mark n = s.deferred mark n := by
  induction acts generalizing s ms with
  | nil => rfl
  | cons a as ih =>
      obtain ⟨hquiet, hsame⟩ := h.act hattended hn hmark a
      have hlength := Nat.le_trans hmark (dispatched_le_act hattended a)
      rw [run_cons, ih hquiet (hattended.act a) (List.mem_append_left _ hn) hlength, hsame]

/-- On a timely clock a waiting timer is not late. -/
theorem Waiting.now_le (h : s.Waiting due n) (hnow : s.timeline.now ≤ due) (ha : s.Timely a) :
    (s.act a).timeline.now ≤ due := by
  rcases s.now_act a with heq | ⟨time, rfl, heq⟩
  · rw [heq]
    exact hnow
  · obtain ⟨t, ht, rfl, htime, -⟩ := h.timer
    rw [heq]
    exact ha t ht due htime h.live

/-- What becomes of a waiting timer: it asks for one pass when its time has come, or for none. -/
theorem Waiting.run (h : s.Waiting due n) (hattended : s.Attended ms) (hn : n ∈ ms)
    (hmark : mark ≤ s.timeline.dispatched.length) (acts : List Act) :
    (∃ time, due ≤ time ∧
      (s.run acts).deferred mark n = s.deferred mark n ++ [⟨n, .deferredPass, time⟩] ∧
      (s.Along Timely acts → s.timeline.now ≤ due → time = due)) ∨
    ((s.run acts).deferred mark n = s.deferred mark n ∧
      (s.Along Timely acts → s.timeline.now ≤ due → (s.run acts).timeline.now ≤ due ∨
        ∃ before after, acts = before ++ after ∧ (s.run before).timeline.isLive n = false ∧
          (s.run before).timeline.now ≤ due)) := by
  induction acts generalizing s ms with
  | nil => exact Or.inr ⟨rfl, fun _ hnow => Or.inl hnow⟩
  | cons a as ih =>
      have hattended' := hattended.act a
      have hn' : n ∈ ms ++ (s.mounts? a).toList := List.mem_append_left _ hn
      have hlength := Nat.le_trans hmark (dispatched_le_act hattended a)
      simp only [run_cons]
      rcases h.act hattended hn hmark a with ⟨hwaiting, hsame⟩ | ⟨hquiet, hdue, hmade⟩ |
        ⟨hdead, hsame⟩
      · rcases ih hwaiting hattended' hn' hlength with ⟨time, hle, hmade, hexact⟩ | ⟨hnone, hlate⟩
        · refine Or.inl ⟨time, hle, by rw [hmade, hsame], fun htimely hnow => ?_⟩
          exact hexact htimely.2 (h.now_le hnow htimely.1)
        · refine Or.inr ⟨by rw [hnone, hsame], fun htimely hnow => ?_⟩
          rcases hlate htimely.2 (h.now_le hnow htimely.1) with hlate | ⟨before, after, rfl, hrest⟩
          · exact Or.inl hlate
          · exact Or.inr ⟨a :: before, after, rfl, hrest⟩
      · refine Or.inl ⟨s.timeline.now, hdue, ?_, fun _ hnow => Nat.le_antisymm hnow hdue⟩
        rw [hquiet.run hattended' hn' hlength as, hmade]
      · have hquiet : (s.act a).Quiet n := fun hlive => by simp [hdead] at hlive
        refine Or.inr ⟨?_, fun htimely hnow => Or.inr ⟨[a], as, rfl, hdead, ?_⟩⟩
        · rw [hquiet.run hattended' hn' hlength as, hsame]
        · exact h.now_le hnow htimely.1

/-! ### Mounts -/

theorem dispatched_of_mounts? (h : s.mounts? a = some n) :
    (s.act a).timeline.dispatched = s.timeline.dispatched := by
  obtain ⟨w, hw, hact⟩ := act_of_mounts? h
  obtain ⟨-, -, -, hdispatched, -⟩ := pass_mount_timeline s.pass w n
  have hsame : w.dispatched = s.timeline.dispatched := by
    rcases hw with ⟨rfl, -⟩ | ⟨rfl, -⟩ <;> rfl
  rw [hact]
  exact hdispatched.trans hsame

/-- A surface that is alive when it is mounted had no task before.  It has a timer now if something
may be left to do. -/
theorem Attended.mount (h : s.Attended ms) (hmounts : s.mounts? a = some n) :
    (s.pass.phase ≠ .highlighted ∧
      (s.act a).Waiting (s.timeline.now + s.pass.scheduler.delay) n) ∨
    ((s.pass.phase = .highlighted ∨ (s.act a).timeline.isLive n = false) ∧ (s.act a).Quiet n) := by
  cases hlive : (s.act a).timeline.isLive n with
  | false => exact Or.inr ⟨Or.inr rfl, fun hn => by simp [hlive] at hn⟩
  | true =>
      have hm := moved h.orderly a
      have hnew : ∀ t ∈ s.timeline.tasks, t.surface ≠ n := by
        rintro t ht rfl
        have hspares := (h.spares (h.task_mem t ht) hlive).2
        simp [hspares.mounts?_eq] at hmounts
      by_cases hphase : s.pass.phase = .highlighted
      · refine Or.inr ⟨Or.inl hphase, fun _ t ht htn hrequest => ?_⟩
        rcases hm.task t ht with ⟨u, hu, -, hsurface, -⟩ | ⟨-, hstarts⟩
        · exact hnew u hu (hsurface.trans htn)
        · rw [hrequest] at hstarts
          cases hstarts with
          | timer _ hne _ => exact hne hphase
      · obtain ⟨t, ht, htn, htime, honly⟩ := hm.started n hmounts hphase hlive
        refine Or.inl ⟨hphase, hlive, t, ht, htn, htime, fun u hu hun _ => ?_⟩
        exact (honly u hu).resolve_left fun hold => hnew u hold hun

theorem delay_run (hattended : s.Attended ms) (acts : List Act) :
    (s.run acts).pass.scheduler.delay = s.pass.scheduler.delay := by
  induction acts generalizing s ms with
  | nil => rfl
  | cons a as ih =>
      rw [run_cons, ih (hattended.act a), (moved hattended.orderly a).delay_eq]

/-- What a mount leads to. -/
theorem Attended.deferred_of_mount (h : s.Attended ms) (hmounts : s.mounts? a = some n)
    (later : List Act) :
    let due := s.timeline.now + s.pass.scheduler.delay
    let asked := ((s.act a).run later).deferred s.timeline.dispatched.length n
    asked.length ≤ 1 ∧ (∀ m ∈ asked, due ≤ m.time) ∧
    (s.pass.phase = .highlighted → asked = []) ∧
    (s.pass.phase ≠ .highlighted → (s.act a).Along Timely later →
      asked = [⟨n, .deferredPass, due⟩] ∨
      asked = [] ∧ (((s.act a).run later).timeline.now ≤ due ∨
        ∃ before after, later = before ++ after ∧
          ((s.act a).run before).timeline.isLive n = false ∧
          ((s.act a).run before).timeline.now ≤ due)) := by
  intro due asked
  have hdispatched := dispatched_of_mounts? hmounts
  have hmark : s.timeline.dispatched.length ≤ (s.act a).timeline.dispatched.length := by
    rw [hdispatched]
  have hfresh : (s.act a).deferred s.timeline.dispatched.length n = [] := by
    rw [deferred, hdispatched, List.drop_length, List.filter_nil]
  have hnow : (s.act a).timeline.now ≤ due := by
    rcases s.now_act a with heq | ⟨time, rfl, -⟩
    · rw [heq]
      exact Nat.le_add_right _ _
    · simp [mounts?] at hmounts
  have hattended := h.act a
  have hn : n ∈ ms ++ (s.mounts? a).toList := by simp [hmounts]
  rcases h.mount hmounts with ⟨hphase, hwaiting⟩ | ⟨hnone, hquiet⟩
  · rcases hwaiting.run hattended hn hmark later with ⟨time, hle, hmade, hexact⟩ | ⟨hsame, hlate⟩
    · have hasked : asked = [⟨n, .deferredPass, time⟩] := by
        simp only [asked, hmade, hfresh, List.nil_append]
      rw [hasked]
      refine ⟨Nat.le_refl _, by simpa using hle, fun hne => absurd hne hphase, fun _ htimely => ?_⟩
      rw [hexact htimely hnow]
      exact Or.inl rfl
    · have hasked : asked = [] := hsame.trans hfresh
      rw [hasked]
      exact ⟨Nat.zero_le _, by simp, fun _ => rfl,
        fun _ htimely => Or.inr ⟨rfl, hlate htimely hnow⟩⟩
  · have hasked : asked = [] := (hquiet.run hattended hn hmark later).trans hfresh
    rw [hasked]
    refine ⟨Nat.zero_le _, by simp, fun _ => rfl, fun hphase _ => Or.inr ⟨rfl, Or.inr ?_⟩⟩
    exact ⟨[], later, rfl, hnone.resolve_left hphase, hnow⟩

/-- Teardown is final.  A request is made only while its surface is alive, by a task that a mount or
an incomplete pass has started for that surface; since then nothing was mounted or unmounted, and
the surface was not torn down.  Of all surfaces that were mounted at most one is alive.  And a mount
leads to at most one deferred pass: to none if nothing was left to do, and else, on a timely clock,
to one after the delay of the settings, unless its surface is torn down first. -/
theorem teardown_is_final (depot : Depot) (settings : Settings) (doc : Document) (acts : List Act) :
    let start := opened depot settings doc
    let s := start.run acts
    (∀ a, ∃ made, (s.act a).timeline.dispatched = s.timeline.dispatched ++ made ∧ made.length ≤ 1 ∧
      ∀ m ∈ made, s.timeline.isLive m.surface = true ∧ m.time = s.timeline.now ∧
        start.Scheduled acts m.surface m.request) ∧
    (∀ n ∈ start.mounted acts, ∀ m ∈ start.mounted acts,
      s.timeline.isLive n = true → s.timeline.isLive m = true → n = m) ∧
    ∀ a n later, s.mounts? a = some n →
      let due := s.timeline.now + settings.deferDelay
      let asked := ((s.act a).run later).deferred s.timeline.dispatched.length n
      asked.length ≤ 1 ∧ (∀ m ∈ asked, due ≤ m.time) ∧
      (s.pass.phase = .highlighted → asked = []) ∧
      (s.pass.phase ≠ .highlighted → (s.act a).Along Timely later →
        asked = [⟨n, .deferredPass, due⟩] ∨
        asked = [] ∧ (((s.act a).run later).timeline.now ≤ due ∨
          ∃ before after, later = before ++ after ∧
            ((s.act a).run before).timeline.isLive n = false ∧
            ((s.act a).run before).timeline.now ≤ due)) := by
  intro start s
  have hattended : s.Attended (start.mounted acts) := attended_run depot settings doc acts
  refine ⟨fun a => dispatched_act depot settings doc acts a, ?_, ?_⟩
  · intro n hn m hm hnlive hmlive
    exact hattended.eq_of_live hn hm hnlive hmlive
  · intro a n later hmounts
    have hdelay : s.pass.scheduler.delay = settings.deferDelay :=
      delay_run (attended_opened depot settings doc) acts
    rw [← hdelay]
    exact hattended.deferred_of_mount hmounts later

/-- A second surface is mounted before the timer of the first one has come.  Both timers are polled
when the second one has, and only that one asks for a pass. -/
theorem second_mount_before_the_timer :
    let start := opened {} {} ⟨[{ id := 1, text := "ab" }]⟩
    let acts : List Act := [.mount, .aside (.elapse 4)]
    let later : List Act := [.aside (.elapse 10), .wake 0, .wake 1]
    let s := start.run acts
    let last := start.run (acts ++ [.mount, .aside (.elapse 10)])
    s.mounts? .mount = some 2 ∧ s.pass.phase ≠ .highlighted ∧ (s.act .mount).Along Timely later ∧
      ((s.act .mount).run later).deferred s.timeline.dispatched.length 2 =
        [⟨2, .deferredPass, 14⟩] ∧
      (last.act (.wake 1)).timeline.dispatched = [⟨2, .deferredPass, 14⟩] ∧
      start.Scheduled (acts ++ [.mount, .aside (.elapse 10)]) 2 .deferredPass ∧
      last.timeline.isLive 2 = true ∧
      ∀ n ∈ start.mounted (acts ++ [.mount, .aside (.elapse 10)]),
        last.timeline.isLive n = true → n = 2 := by
  intro start acts later s last
  have hmounts : s.mounts? .mount = some 2 := by decide +kernel
  have hphase : s.pass.phase ≠ .highlighted := by decide +kernel
  have htimely : (s.act .mount).Along Timely later := by
    refine ⟨?_, trivial, trivial, trivial⟩
    have htasks : (s.act .mount).timeline.tasks = [⟨0, 1, .time 10⟩, ⟨1, 2, .time 14⟩] := by
      decide +kernel
    intro t ht due hdue hlive
    rw [htasks] at ht
    rcases List.mem_pair.mp ht with rfl | rfl
    · -- the second mount has torn the first surface down
      have hdead : (s.act .mount).timeline.isLive 1 = false := by decide +kernel
      exact absurd hlive (by simp [hdead])
    · have hnow : (s.act .mount).timeline.now = 4 := by decide +kernel
      obtain rfl : 14 = due := by simpa using hdue
      omega
  obtain ⟨-, -, hmount⟩ := teardown_is_final {} {} ⟨[{ id := 1, text := "ab" }]⟩ acts
  obtain ⟨-, -, -, hasked⟩ := hmount .mount 2 later hmounts
  obtain ⟨hrequest, hone, -⟩ := teardown_is_final {} {} ⟨[{ id := 1, text := "ab" }]⟩
    (acts ++ [.mount, .aside (.elapse 10)])
  have hlive : last.timeline.isLive 2 = true := by decide +kernel
  have hmounted : 2 ∈ start.mounted (acts ++ [.mount, .aside (.elapse 10)]) := by decide +kernel
  have hmade : (last.act (.wake 1)).timeline.dispatched = [⟨2, .deferredPass, 14⟩] := by
    decide +kernel
  obtain ⟨made, happend, -, hmem⟩ := hrequest (.wake 1)
  have hbefore : last.timeline.dispatched = [] := by decide +kernel
  have hmem2 : (⟨2, .deferredPass, 14⟩ : Dispatched) ∈ made := by
    have : made = [⟨2, .deferredPass, 14⟩] := by
      rw [← hmade, happend, hbefore, List.nil_append]
    simp [this]
  refine ⟨hmounts, hphase, htimely, ?_, hmade, (hmem _ hmem2).2.2, hlive, ?_⟩
  · rcases hasked hphase htimely with hasked | ⟨hnone, -⟩
    · exact hasked
    · have hfound : ((s.act .mount).run later).deferred s.timeline.dispatched.length 2 ≠ [] := by
        decide +kernel
      exact absurd hnone hfound
  · intro n hn hnlive
    exact hone n hn 2 hmounted hnlive hlive

end Session

end Highlight
