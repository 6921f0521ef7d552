import Highlight.Scenario.Loads
import Highlight.Surface.Scheduler

/-!
# Steps about scheduling

Scenarios in which surfaces are attached to a scheduler and passes are asked for.
-/

namespace Highlight.Scenario

/-- A step of a scenario about scheduling. -/
inductive ScheduleStep where
  | load (s : LoadStep)
  | attach
  | detach
  | tearDown (surface : Nat)
  | schedule
  | followUp (handles : List Nat)

/-- A bench with a scheduler. -/
structure ScheduleBench where
  bench : Bench
  scheduler : Scheduler

namespace ScheduleBench

def set (b : ScheduleBench) (next : Scheduler × Timeline) : ScheduleBench :=
  { bench := { b.bench with timeline := next.2 }, scheduler := next.1 }

def run (b : ScheduleBench) : ScheduleStep → LoadAnswer × ScheduleBench
  | .load s =>
      let (answer, bench) := b.bench.run s
      (answer, { b with bench })
  | .attach =>
      let (surface, w) := b.bench.timeline.addSurface
      (.nothing, b.set (b.scheduler.attach w surface))
  | .detach => (.nothing, b.set (b.scheduler.detach b.bench.timeline))
  | .tearDown surface => (.nothing, b.set (b.scheduler, b.bench.timeline.tearDown surface))
  | .schedule =>
      let (scheduled, w) := b.scheduler.scheduleDeferred b.bench.timeline
      (.truth scheduled, b.set (b.scheduler, w))
  | .followUp handles =>
      (.nothing, b.set (b.scheduler.followUp b.bench.timeline (handles.filterMap b.bench.load?)))

end ScheduleBench

/-- The answer to one step, with what can be seen afterwards. -/
structure ScheduleReport where
  answer : LoadAnswer
  time : Nat
  attached : Bool
  surfaces : List Lifetime
  /-- The requests made since the step before. -/
  dispatched : List Dispatched

/-- The reports of a scenario about scheduling; `seen` requests have been reported. -/
def runSchedule : (seen : Nat) → ScheduleBench → List ScheduleStep → List ScheduleReport
  | _, _, [] => []
  | seen, b, s :: ss =>
      let (answer, b) := b.run s
      let b := { b with bench := b.bench.settle }
      let w := b.bench.timeline
      ⟨answer, w.now, b.scheduler.isAttached w, w.surfaces, w.dispatched.drop seen⟩ ::
        runSchedule w.dispatched.length b ss

end Highlight.Scenario
