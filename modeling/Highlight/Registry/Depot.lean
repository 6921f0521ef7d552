import Highlight.Registry.Supply

/-!
# Loads on a virtual clock

A depot runs the tasks of a registry's loads on a clock that moves only when it is told to.  A task
waits for its time, calls the loader, waits at the tag's gate, waits as long as the call takes, and
ends with the result.  `poll` takes a task one stage further if it can go on.
-/

namespace Highlight

/-- How far the task of a load has come. -/
inductive Stage where
  /-- The loader was called and is held up at the gate; calls are numbered for each tag. -/
  | atGate (call : Nat)
  /-- The call takes until a time. -/
  | working (call : Nat) (doneAt : Nat)
  deriving DecidableEq, Repr

/-- A call of a loader that took place. -/
structure Call where
  load : Load
  time : Nat
  deriving DecidableEq, Repr

/-- A registry, the behaviour of its loaders, and a clock. -/
structure Depot where
  now : Nat := 0
  registry : Registry := {}
  supply : Supply := {}
  /-- The stages of the tasks that have called their loader, by load. -/
  stages : Table Nat Stage := {}
  /-- The calls of loaders so far, latest first. -/
  callLog : List Call := []

namespace Depot

def canRun (d : Depot) (t : LoadTask) : Bool :=
  match d.stages.get? t.load.id with
  | none => t.callAt ≤ d.now
  | some (.atGate _) => d.supply.isOpen t.load.language
  | some (.working _ doneAt) => doneAt ≤ d.now

/-- The time at which a task can go on, if it waits for one. -/
def wakeTime? (d : Depot) (t : LoadTask) : Option Nat :=
  match d.stages.get? t.load.id with
  | none => some t.callAt
  | some (.atGate _) => none
  | some (.working _ doneAt) => some doneAt

def stagesLeft (d : Depot) (t : LoadTask) : Nat :=
  match d.stages.get? t.load.id with
  | none => 3
  | some (.atGate _) => 2
  | some (.working _ _) => 1

def advance (d : Depot) (t : LoadTask) : Depot :=
  let language := t.load.language
  match d.stages.get? t.load.id with
  | none =>
      { d with
        supply := d.supply.countCall language
        stages := d.stages.insert t.load.id (.atGate (d.supply.callCount language))
        callLog := ⟨t.load, d.now⟩ :: d.callLog }
  | some (.atGate call) =>
      { d with
        stages := d.stages.insert t.load.id (.working call (d.now + d.supply.delay language)) }
  | some (.working call _) =>
      { d with
        registry := d.registry.finish d.now t.load.id
          ((d.supply.callEnd language call).result t.loader language) }

/-- The task of a load, if it is under way. -/
def task? (d : Depot) (id : Nat) : Option LoadTask := d.registry.tasks.find? (·.load.id == id)

/-- Takes the task of a load one stage further, if it can go on. -/
def poll (d : Depot) (id : Nat) : Depot :=
  match d.task? id with
  | none => d
  | some t => if d.canRun t then d.advance t else d

def runnable? (d : Depot) : Option LoadTask := d.registry.tasks.find? d.canRun

def work (d : Depot) : Nat := d.registry.tasks.foldr (fun t n => d.stagesLeft t + n) 0

/-- The times, later than now, for which tasks wait. -/
def wakeTimes (d : Depot) : List Nat := (d.registry.tasks.filterMap d.wakeTime?).filter (d.now < ·)

/-- Starts a load of a tag if one is needed. -/
def ensureLoaded (d : Depot) (language : String) : Option Load × Depot :=
  let (load?, registry) := d.registry.ensureLoaded d.now language
  (load?, { d with registry })

def register (d : Depot) (language : String) (g : Grammar) : Bool × Depot :=
  let (taken, registry) := d.registry.register language g
  (taken, { d with registry })

def setGate (d : Depot) (language : String) (isOpen : Bool) : Depot :=
  { d with supply := d.supply.setGate language isOpen }

end Depot

end Highlight
