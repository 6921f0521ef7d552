import Highlight.Registry.Depot
import Highlight.Surface.Lifetime

/-!
# The timeline of a session

A timeline holds what runs beside the host on one virtual clock: the loads of a depot, and the tasks
bound to surfaces.  A deferred pass waits for a time, a follow-up waits for loads; at their end they
ask the host for a change cycle, provided their surface is still there.

Every step is the step of one task.  `settle` takes steps until no task can go on at the present
time, and `runUntil` moves the clock from one awaited time to the next.
-/

namespace Highlight

/-- A change cycle that the host is asked for. -/
inductive Request where
  /-- The deferred first pass after mounting. -/
  | deferredPass
  /-- Grammars that a pass had to do without have been loaded, or could not be. -/
  | grammarLoaded
  deriving DecidableEq, Repr

/-- What a task bound to a surface waits for. -/
inductive Awaited where
  | time (due : Nat)
  | loads (pending : List Load)
  deriving DecidableEq, Repr

/-- The request that a task makes at its end. -/
def Awaited.request : Awaited → Request
  | time _ => .deferredPass
  | loads _ => .grammarLoaded

/-- A task that waits on behalf of a surface. -/
structure SurfaceTask where
  id : Nat
  surface : Nat
  awaited : Awaited
  deriving DecidableEq, Repr

/-- A request that was made. -/
structure Dispatched where
  surface : Nat
  request : Request
  time : Nat
  deriving DecidableEq, Repr

/-- What runs beside the host. -/
structure Timeline where
  depot : Depot := {}
  /-- The lifetimes of the surfaces, by number. -/
  surfaces : List Lifetime := []
  tasks : List SurfaceTask := []
  /-- The number of the next task. -/
  nextTask : Nat := 0
  /-- All requests so far, in order. -/
  dispatched : List Dispatched := []
  /-- The requests that the host has not taken yet; there are none once it has stopped listening. -/
  inbox : Option (List Request) := some []

namespace Timeline

def now (w : Timeline) : Nat := w.depot.now

def registry (w : Timeline) : Registry := w.depot.registry

def isLive (w : Timeline) (surface : Nat) : Bool := Lifetime.isLiveAt w.surfaces surface

/-- Adds a surface; the answer is its number. -/
def addSurface (w : Timeline) : Nat × Timeline :=
  (w.surfaces.length, { w with surfaces := w.surfaces ++ [.live] })

def tearDown (w : Timeline) (surface : Nat) : Timeline :=
  { w with surfaces := Lifetime.tearDownAt w.surfaces surface }

/-- Starts a task for a surface; the answer is its number. -/
def spawn (w : Timeline) (surface : Nat) (awaited : Awaited) : Nat × Timeline :=
  (w.nextTask,
    { w with
      tasks := w.tasks ++ [⟨w.nextTask, surface, awaited⟩]
      nextTask := w.nextTask + 1 })

def task? (w : Timeline) (id : Nat) : Option SurfaceTask := w.tasks.find? (·.id == id)

def dropTask (w : Timeline) (id : Nat) : Timeline :=
  { w with tasks := w.tasks.filter (·.id != id) }

def setAwaited (w : Timeline) (id : Nat) (awaited : Awaited) : Timeline :=
  { w with tasks := w.tasks.map fun t => if t.id == id then { t with awaited } else t }

def dispatch (w : Timeline) (surface : Nat) (request : Request) : Timeline :=
  { w with
    dispatched := w.dispatched ++ [⟨surface, request, w.now⟩]
    inbox := w.inbox.map (· ++ [request]) }

def hasRequest (w : Timeline) : Bool := (w.inbox.getD []) != []

/-- Whether what a task waits for has come; of loads the first one is waited for first. -/
def hasCome (w : Timeline) : Awaited → Bool
  | .time due => due ≤ w.now
  | .loads [] => true
  | .loads (l :: _) => w.registry.isFinished l

/-- Whether a task can go on: its surface is gone, or what it waits for has come. -/
def canRun (w : Timeline) (t : SurfaceTask) : Bool := !w.isLive t.surface || w.hasCome t.awaited

/-- Takes a task as far as it can go: it is dropped with its surface, goes on waiting, or ends with
its request. -/
def pollTask (w : Timeline) (id : Nat) : Timeline :=
  match w.task? id with
  | none => w
  | some t =>
      if !w.isLive t.surface then w.dropTask id
      else
        match t.awaited with
        | .time due =>
            if due ≤ w.now then (w.dropTask id).dispatch t.surface t.awaited.request else w
        | .loads pending =>
            match pending.dropWhile w.registry.isFinished with
            | [] => (w.dropTask id).dispatch t.surface t.awaited.request
            | rest => w.setAwaited id (.loads rest)

/-- Takes the task of a load one stage further, if it can go on. -/
def pollLoad (w : Timeline) (id : Nat) : Timeline := { w with depot := w.depot.poll id }

def step? (w : Timeline) : Option Timeline :=
  match w.depot.runnable? with
  | some t => some (w.pollLoad t.load.id)
  | none => (w.tasks.find? w.canRun).map fun t => w.pollTask t.id

/-- How much is left to wait for in a task. -/
def Awaited.work : Awaited → Nat
  | .time _ => 1
  | .loads pending => pending.length + 1

/-- A bound on the steps that all tasks can still take. -/
def work (w : Timeline) : Nat :=
  w.depot.work + w.tasks.foldr (fun t n => Awaited.work t.awaited + n) 0

/-- Takes at most so many steps. -/
def settleWithin : Nat → Timeline → Timeline
  | 0, w => w
  | fuel + 1, w =>
      match w.step? with
      | none => w
      | some w => settleWithin fuel w

/-- Takes steps until no task can go on at the present time. -/
def settle (w : Timeline) : Timeline := w.settleWithin w.work

/-- The times, later than now, that tasks wait for. -/
def wakeTimes (w : Timeline) : List Nat :=
  w.depot.wakeTimes ++
    (w.tasks.filterMap fun t =>
      match t.awaited with
      | .time due => if w.now < due then some due else none
      | .loads _ => none)

def setClock (w : Timeline) (time : Nat) : Timeline :=
  { w with depot := { w.depot with now := time } }

/-- Settles, and moves the clock to the next awaited time, until the goal is reached or the deadline
comes. -/
def runWithin (goal : Timeline → Bool) (deadline : Nat) : Nat → Timeline → Timeline
  | 0, w => w.setClock deadline
  | fuel + 1, w =>
      let w := w.settle
      if goal w then w
      else
        match w.wakeTimes.min? with
        | none => w.setClock deadline
        | some time =>
            if time ≤ deadline then runWithin goal deadline fuel (w.setClock time)
            else w.setClock deadline

/-- Lets time pass until the goal is reached, for at most `ms` milliseconds. -/
def runUntil (w : Timeline) (goal : Timeline → Bool) (ms : Nat) : Timeline :=
  runWithin goal (w.now + ms) (w.work + 1) w

def wait (w : Timeline) (ms : Nat) : Timeline := w.runUntil (fun _ => false) ms

/-- Puts another state of the registry in place of the present one. -/
def setRegistry (w : Timeline) (registry : Registry) : Timeline :=
  { w with depot := { w.depot with registry } }

/-- Starts a load of a tag if one is needed. -/
def ensureLoaded (w : Timeline) (language : String) : Option Load × Timeline :=
  let (load?, depot) := w.depot.ensureLoaded language
  (load?, { w with depot })

end Timeline

end Highlight
