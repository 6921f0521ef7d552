import Highlight.Scenario.Setup

/-!
# Steps about loads

The steps of a scenario that deal with the registry and its loads, and what they answer.  A bench
holds the timeline together with all loads that were handed out so far, so that later steps can name
them.
-/

namespace Highlight.Scenario

/-- A step about loads; loads are named by their place among those handed out. -/
inductive LoadStep where
  | ensure (language : String)
  /-- Waits for the end of a load, for at most a minute. -/
  | finished (handle : Nat)
  | isFinished (handle : Nat)
  | gate (language : String) (isOpen : Bool)
  | wait (ms : Nat)
  | calls
  | status (language : String)
  | register (language : String) (source : GrammarSource)

/-- What is said about a load that is handed out. -/
structure HandleNote where
  handle : Nat
  load : Load
  finished : Bool
  deriving DecidableEq, Repr

/-- What is said about a language tag. -/
structure StatusNote where
  status : GrammarStatus
  ready : Bool
  grammar : Option String
  deriving DecidableEq, Repr

/-- The answer to a step about loads. -/
inductive LoadAnswer where
  | nothing
  | truth (b : Bool)
  | handle (h : HandleNote)
  /-- How a load ended; there is no end if it took too long. -/
  | ended (outcome : Option LoadOutcome)
  | calls (counts : List (String × Nat))
  | status (s : StatusNote)
  /-- The grammar to register cannot be made. -/
  | badGrammar (e : GrammarError)
  /-- There is no such grammar to register. -/
  | noGrammar

/-- A timeline and the loads that were handed out. -/
structure Bench where
  timeline : Timeline
  handles : List Load := []

namespace Bench

def handOut (b : Bench) (l : Load) : HandleNote × Bench :=
  (⟨b.handles.length, l, b.timeline.registry.isFinished l⟩, { b with handles := b.handles ++ [l] })

def handOutAll (b : Bench) (ls : List Load) : List HandleNote × Bench :=
  ls.foldl (fun (notes, b) l =>
    let (note, b) := b.handOut l
    (notes ++ [note], b)) ([], b)

def load? (b : Bench) (handle : Nat) : Option Load := b.handles[handle]?

/-- How long a step waits for the end of a load. -/
def patience : Nat := 60000

def run (b : Bench) : LoadStep → LoadAnswer × Bench
  | .ensure language =>
      match b.timeline.ensureLoaded language with
      | (none, timeline) => (.nothing, { b with timeline })
      | (some l, timeline) =>
          let (note, b) := { b with timeline }.handOut l
          (.handle note, b)
  | .finished handle =>
      match b.load? handle with
      | none => (.nothing, b)
      | some l =>
          let timeline := b.timeline.runUntil (fun w => w.registry.isFinished l) patience
          (.ended (timeline.registry.outcome? l), { b with timeline })
  | .isFinished handle =>
      match b.load? handle with
      | none => (.nothing, b)
      | some l => (.truth (b.timeline.registry.isFinished l), b)
  | .gate language isOpen =>
      (.nothing,
        { b with
          timeline := { b.timeline with depot := b.timeline.depot.setGate language isOpen } })
  | .wait ms => (.nothing, { b with timeline := b.timeline.wait ms })
  | .calls => (.calls b.timeline.depot.supply.calls.entries, b)
  | .status language =>
      let r := b.timeline.registry
      (.status ⟨r.status language, r.isReady language, (r.grammar? language).map (·.name)⟩, b)
  | .register language source =>
      match source.load? with
      | none => (.noGrammar, b)
      | some (.error e) => (.badGrammar e, b)
      | some (.ok g) =>
          let (taken, registry) := b.timeline.registry.register language g
          (.truth taken, { b with timeline := b.timeline.setRegistry registry })

def settle (b : Bench) : Bench := { b with timeline := b.timeline.settle }

end Bench

/-- The answer to one step, with the time and the statuses of watched tags afterwards. -/
structure LoadReport where
  answer : LoadAnswer
  time : Nat
  statuses : List (String × GrammarStatus)

def runLoads (watched : List String) : Bench → List LoadStep → List LoadReport
  | _, [] => []
  | b, s :: ss =>
      let (answer, b) := b.run s
      let b := b.settle
      ⟨answer, b.timeline.now, watched.map fun tag => (tag, b.timeline.registry.status tag)⟩ ::
        runLoads watched b ss

/-- What happens when a grammar is asked for once, with only the built-in ones to be had. -/
structure SingleLoad where
  before : GrammarStatus
  /-- The load and how it ended, if there was one. -/
  load : Option (Load × Option LoadOutcome)
  after : GrammarStatus
  known : Bool

/-- Asks for the grammar of a tag once. -/
def loadOnce (tag : String) : SingleLoad :=
  let start : Timeline := { depot := { registry := { loaders := [.builtin] } } }
  let (load?, w) := start.ensureLoaded tag
  let w := w.settle
  { before := start.registry.status tag
    load := load?.map fun l => (l, w.registry.outcome? l)
    after := w.registry.status tag
    known := Builtin.provides tag }

end Highlight.Scenario
