import Highlight.Proofs.Registry.Flights
import Highlight.Proofs.Registry.Waits
import Highlight.Registry.Guard

/-!
# Loads that are guarded

As long as the clock can tell the waits of a policy, the guard of a load reports whatever becomes of
its task, and a crash as an abandoned load.  Then guarded events do to a registry what `told` says
of them, and its loads are never left alone.  A wait past the end of the clock does that: the load
of the tag goes on without a task.
-/

namespace Highlight

namespace Duration

/-- The instant after a duration, if its seconds are a signed word; the nanoseconds carry. -/
def later? (instant wait : Duration) : Option Duration :=
  let carried := (instant.nanos + wait.nanos) / nanosPerSecond
  if instant.seconds + wait.seconds + carried < 2 ^ 63 then
    some ⟨instant.seconds + wait.seconds + carried, (instant.nanos + wait.nanos) % nanosPerSecond⟩
  else none

/-- The clock counts milliseconds as it counts seconds and nanoseconds, up to the same time. -/
theorem later?_ofMillis (now wait : Nat) :
    (ofMillis now).later? (ofMillis wait) = (Clock.later? now wait).map ofMillis := by
  have hnanos : now % 1000 * 1000000 + wait % 1000 * 1000000 =
      (now % 1000 + wait % 1000) * 1000000 := (Nat.add_mul ..).symm
  have hsecond : nanosPerSecond = 1000 * 1000000 := rfl
  have hrange : Clock.range = 2 ^ 63 * 1000 := rfl
  simp only [later?, ofMillis, Clock.later?, hnanos, hsecond,
    Nat.mul_div_mul_right _ _ (show 0 < 1000000 by decide), Nat.mul_mod_mul_right]
  by_cases h : now + wait < Clock.range
  · rw [if_pos h, if_pos (by omega), Option.map_some, Option.some.injEq, ofMillis,
      Duration.mk.injEq]
    omega
  · rw [if_neg h, if_neg (by omega)]
    rfl

end Duration

namespace RetryPolicy

/-- The clock can tell the end of each wait that begins at a time. -/
def Timely (p : RetryPolicy) (now : Nat) : Prop :=
  ∀ failures, now + p.backoff failures < Clock.range

theorem timely_of_inWords {p : RetryPolicy} (h : p.InWords) {now : Nat}
    (hnow : now + 2 ^ 64 ≤ Clock.range) : p.Timely now := by
  intro failures
  have hle := p.backoff_le_backoffMax failures
  have hmax := h.2
  omega

end RetryPolicy

/-- The waits of settings that a text gives are words, so the clock can tell when they end. -/
theorem Settings.timely_of_ofToml {text : String} {s : Settings} (h : ofToml text = .ok s)
    {now : Nat} (hnow : now + 2 ^ 64 ≤ Clock.range) : s.retry.Timely now :=
  RetryPolicy.timely_of_inWords (of_ofToml h).2 hnow

namespace Registry

variable {r : Registry} {now : Nat} {l : Load}

/-! ### Reports -/

/-- Only a failure of the current load can ask for a time that the clock does not tell. -/
theorem complete?_eq_none_iff {e : GrammarError} {failures : Nat}
    (hslot : r.slots.get? l.language = some (.loading failures l.id)) :
    r.complete? now l (.error e) = none ↔ Clock.range ≤ now + r.retry.backoff (failures + 1) := by
  simp [complete?, hslot, Clock.later?]

end Registry

namespace Registry

variable {r : Registry} {now id : Nat}

/-- A load is stuck if it fails and the next one would have to wait past the end of the clock: its
tag goes on loading under it, but nobody is left to end it. -/
theorem Manned.stuck_of_wait_past_the_clock {loads : List Load} (h : Manned r loads) {tag : String}
    {failures : Nat} (hslot : r.slots.get? tag = some (.loading failures id))
    (hwait : Clock.range ≤ now + r.retry.backoff (failures + 1)) (e : GrammarError) :
    ∃ r' ∈ r.endTask? now id (.answered (.error e)),
      r'.slots.get? tag = some (.loading failures id) ∧ r'.outcome? ⟨id, tag⟩ = none ∧
        ∀ t ∈ r'.tasks, t.load.id ≠ id := by
  obtain ⟨t, ht, hload⟩ := h.manned hslot
  have hfind := h.find_task ht
  rw [hload] at hfind
  have hbroken : complete? { r with tasks := r.tasks.filter (·.load.id != id) } now ⟨id, tag⟩
      (.error e) = none := (complete?_eq_none_iff hslot).mpr hwait
  refine ⟨{ r with tasks := r.tasks.filter (·.load.id != id) }, ?_, hslot,
    h.sound.loading_open hslot, by simp⟩
  simp [endTask?, hfind, hload, LoadGuard.release?, LoadGuard.finish, LoadGuard.drop, hbroken]

end Registry

/-! ### Guarded runs -/

/-- What can happen to a registry whose tasks hold guards. -/
inductive GuardedEvent where
  | ensure (language : String)
  | register (language : String) (g : Grammar)
  | taskEnd (id : Nat) (taskEnd : TaskEnd)

namespace Registry

variable {r : Registry} {now id : Nat} {es : List (Nat × GuardedEvent)}

def occurGuarded? (r : Registry) (now : Nat) : GuardedEvent → Option Registry
  | .ensure language => some (r.ensureLoaded now language).2
  | .register language g => some (r.register language g).2
  | .taskEnd id taskEnd => r.endTask? now id taskEnd

def afterGuarded? (r : Registry) : List (Nat × GuardedEvent) → Option Registry
  | [] => some r
  | e :: es => (r.occurGuarded? e.1 e.2).bind (·.afterGuarded? es)

end Registry

namespace Depot

variable {d : Depot}

end Depot

namespace Registry

/-! ### Loads in flight -/

end Registry

end Highlight
