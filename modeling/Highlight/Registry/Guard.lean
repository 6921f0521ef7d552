import Highlight.Registry.Depot

/-!
# Guards of loads

The task of a load holds a guard.  When the task is over, because its loader came back, because it
crashed, or because it is not run any further, the guard is dropped, and it reports the load as
abandoned unless there was a report.

A report of a failure says when the next load may begin, and there is a last time that a clock can
tell.  If the next load would begin later, the report breaks off before anything is written.
`complete?`, `endTask?` and what follows are `complete`, `finish` and so on with guards and with
such a clock.
-/

namespace Highlight

namespace Clock

/-- The milliseconds that a clock can tell: its seconds are signed words of 64 bits. -/
def range : Nat := 9223372036854775808000

/-- The time after a wait, if the clock can tell it. -/
def later? (now wait : Nat) : Option Nat :=
  if now + wait < range then some (now + wait) else none

end Clock

namespace Registry

/-- Takes the result of a load as `complete` does, and breaks off if the clock cannot tell when the
next load may begin. -/
def complete? (r : Registry) (now : Nat) (l : Load) (result : LoadResult) : Option Registry :=
  match r.slots.get? l.language with
  | some (.loading failures id) =>
      if id = l.id then
        match result with
        | .ok g =>
            some
              { r with
                slots := r.slots.insert l.language (.registered g)
                outcomes := r.outcomes.insert id (.ok ()) }
        | .error e =>
            (Clock.later? now (r.retry.backoff (failures + 1))).map fun retryAt =>
              { r with
                slots := r.slots.insert l.language (.unregistered (failures + 1) (some retryAt))
                outcomes := r.outcomes.insert id (.error e) }
      else some r
  | _ => some r

end Registry

/-- The guard of a load's task. -/
structure LoadGuard where
  load : Load
  /-- Whether there was a report. -/
  done : Bool := false

namespace LoadGuard

/-- Reports a result.  The guard is done with its load even if the report breaks off. -/
def finish (guard : LoadGuard) (r : Registry) (now : Nat) (result : LoadResult) :
    LoadGuard × Option Registry :=
  ({ guard with done := true }, r.complete? now guard.load result)

/-- Reports the load as abandoned, unless the guard is done with it. -/
def drop (guard : LoadGuard) (r : Registry) (now : Nat) : Option Registry :=
  if guard.done then some r
  else r.complete? now guard.load (.error (.abandoned guard.load.language))

/-- What a guard does at the end of its task.  A report that breaks off takes the task with it and
nothing else, unless a crash is just being cleared up: that is the end of the program, and there is
no registry any more. -/
def release? (guard : LoadGuard) (r : Registry) (now : Nat) : TaskEnd → Option Registry
  | .answered result =>
      let (guard, reported?) := guard.finish r now result
      guard.drop (reported?.getD r) now
  | .crashed => guard.drop r now
  | .stopped => some ((guard.drop r now).getD r)

end LoadGuard

/-- The end of a load's task, if it is under way. -/
def Registry.endTask? (r : Registry) (now id : Nat) (taskEnd : TaskEnd) : Option Registry :=
  match r.tasks.find? (·.load.id == id) with
  | none => some r
  | some t =>
      LoadGuard.release? { load := t.load } { r with tasks := r.tasks.filter (·.load.id != id) } now
        taskEnd

namespace Depot

/-- Takes a task one stage further as `advance` does, and ends it with its guard. -/
def advanceGuarded? (d : Depot) (t : LoadTask) : Option Depot :=
  let language := t.load.language
  match d.stages.get? t.load.id with
  | some (.working call _) =>
      (d.registry.endTask? d.now t.load.id
        ((d.supply.callEnd language call).taskEnd t.loader language)).map fun registry =>
          { d with registry }
  | _ => some (d.advance t)

/-- Takes the task of a load one stage further as `poll` does, and ends it with its guard. -/
def pollGuarded? (d : Depot) (id : Nat) : Option Depot :=
  match d.task? id with
  | none => some d
  | some t => if d.canRun t then d.advanceGuarded? t else some d

end Depot

end Highlight
