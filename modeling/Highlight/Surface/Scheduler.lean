import Highlight.Surface.Timeline

/-!
# Scheduling passes

The scheduler knows the attached surface and starts the tasks that ask for passes: a deferred pass
after mounting, and one follow-up for the loads that incomplete passes have to wait for.  Loads that
come while a follow-up is still waiting join it.
-/

namespace Highlight

/-- The scheduler of one document. -/
structure Scheduler where
  /-- The wait before a deferred pass. -/
  delay : Nat
  surface? : Option Nat := none
  /-- The follow-up task of the attached surface that was started last. -/
  batch? : Option Nat := none
  deriving DecidableEq, Repr

namespace Scheduler

def detach (s : Scheduler) (w : Timeline) : Scheduler × Timeline :=
  ({ s with surface? := none, batch? := none },
    match s.surface? with
    | none => w
    | some surface => w.tearDown surface)

/-- Attaches a surface; one that was attached before is torn down. -/
def attach (s : Scheduler) (w : Timeline) (surface : Nat) : Scheduler × Timeline :=
  let (s, w) := s.detach w
  ({ s with surface? := some surface }, w)

def liveSurface? (s : Scheduler) (w : Timeline) : Option Nat := s.surface?.filter w.isLive

def isAttached (s : Scheduler) (w : Timeline) : Bool := (s.liveSurface? w).isSome

/-- Schedules a deferred pass; the answer says whether there is a surface for it. -/
def scheduleDeferred (s : Scheduler) (w : Timeline) : Bool × Timeline :=
  match s.liveSurface? w with
  | none => (false, w)
  | some surface => (true, (w.spawn surface (.time (w.now + s.delay))).2)

/-- The follow-up that loads can join: the last one, while it is waiting. -/
def openBatch? (s : Scheduler) (w : Timeline) : Option (Nat × List Load) :=
  match s.batch? with
  | none => none
  | some id =>
      match w.task? id with
      | some ⟨_, _, .loads pending⟩ => some (id, pending)
      | _ => none

/-- Waits for loads before asking for another pass.  Without a surface they are not waited for. -/
def followUp (s : Scheduler) (w : Timeline) (loads : List Load) : Scheduler × Timeline :=
  if loads.isEmpty then (s, w)
  else
    match s.liveSurface? w with
    | none => (s, w)
    | some surface =>
        match s.openBatch? w with
        | some (id, pending) => (s, w.setAwaited id (.loads (pending ++ loads)))
        | none =>
            let (id, w) := w.spawn surface (.loads loads)
            ({ s with batch? := some id }, w)

end Scheduler

end Highlight
