import Highlight.Engine
import Highlight.Scenario.Loads

/-!
# Steps about passes

Scenarios in which one engine computes the decorations of a document that is edited in between.
-/

namespace Highlight.Scenario

/-- A step of a scenario about passes. -/
inductive EngineStep where
  | load (s : LoadStep)
  | edit (e : Edit)
  | recompute

/-- The answer to a step. -/
inductive EngineAnswer where
  | load (a : LoadAnswer)
  | edited
  | refused (e : EditError)
  | pass (p : RenderPass) (pending : List HandleNote)

/-- A bench with an engine and its document. -/
structure EngineBench where
  bench : Bench
  engine : Engine
  doc : Document

namespace EngineBench

def run (b : EngineBench) : EngineStep → EngineAnswer × EngineBench
  | .load s =>
      let (answer, bench) := b.bench.run s
      (.load answer, { b with bench })
  | .edit e =>
      match b.doc.edit e with
      | .error err => (.refused err, b)
      | .ok (doc, _) => (.edited, { b with doc })
  | .recompute =>
      let w := b.bench.timeline
      let (pass, engine, registry) := b.engine.recompute w.registry w.now b.doc
      let (pending, bench) :=
        { b.bench with timeline := w.setRegistry registry }.handOutAll pass.pending
      (.pass pass pending, { b with engine, bench })

end EngineBench

/-- The answer to one step, with the time and the state of the cache afterwards. -/
structure EngineReport where
  answer : EngineAnswer
  time : Nat
  cacheSize : Nat
  /-- Those of the watched blocks that the cache knows. -/
  cached : List NodeId

def runEngine (watched : List NodeId) : EngineBench → List EngineStep → List EngineReport
  | _, [] => []
  | b, s :: ss =>
      let (answer, b) := b.run s
      let b := { b with bench := b.bench.settle }
      ⟨answer, b.bench.timeline.now, b.engine.cache.size, watched.filter b.engine.cache.contains⟩ ::
        runEngine watched b ss

end Highlight.Scenario
