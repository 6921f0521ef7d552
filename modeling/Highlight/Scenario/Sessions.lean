import Highlight.Scenario.Loads
import Highlight.Session

/-!
# Steps of a session

Scenarios in which a host works on a document, mounts surfaces and answers requests.
-/

namespace Highlight.Scenario

/-- A step of a session. -/
inductive SessionStep where
  | load (s : LoadStep)
  | edit (e : Edit) (note : CycleNote)
  | cycle (note : CycleNote)
  | mount
  | unmount
  | tearDown
  | close
  /-- Takes the next request, waiting for it for some time. -/
  | next (ms : Nat)
  /-- Takes the next request and runs its change cycle. -/
  | pump (ms : Nat)
  /-- Runs the change cycle of a request that nobody made. -/
  | deliver

/-- The answer to a step. -/
inductive SessionAnswer where
  | load (a : LoadAnswer)
  | nothing
  | refused (e : EditError)
  | request (r : Option Request)

/-- A session with the loads that were handed out. -/
structure SessionBench where
  session : Session
  handles : List Load := []

namespace SessionBench

def run (b : SessionBench) : SessionStep → SessionAnswer × SessionBench
  | .load s =>
      let (answer, bench) := Bench.run ⟨b.session.timeline, b.handles⟩ s
      (.load answer,
        { session := { b.session with timeline := bench.timeline }, handles := bench.handles })
  | .edit e note =>
      match b.session.edit e note with
      | .error err => (.refused err, b)
      | .ok session => (.nothing, { b with session })
  | .cycle note => (.nothing, { b with session := b.session.idle note })
  | .mount => (.nothing, { b with session := b.session.mount })
  | .unmount => (.nothing, { b with session := b.session.unmount })
  | .tearDown => (.nothing, { b with session := b.session.tearDown })
  | .close => (.nothing, { b with session := b.session.close })
  | .next ms =>
      let (r, session) := b.session.next ms
      (.request r, { b with session })
  | .pump ms =>
      let (r, session) := b.session.next ms
      (.request r, { b with session := if r.isSome then session.deliver else session })
  | .deliver => (.nothing, { b with session := b.session.deliver })

def settle (b : SessionBench) : SessionBench :=
  { b with session := { b.session with timeline := b.session.timeline.settle } }

end SessionBench

/-- The answer to one step, with the session as it is afterwards. -/
structure SessionReport where
  answer : SessionAnswer
  session : Session

def runSession : SessionBench → List SessionStep → List SessionReport
  | _, [] => []
  | b, s :: ss =>
      let (answer, b) := b.run s
      let b := b.settle
      ⟨answer, b.session⟩ :: runSession b ss

end Highlight.Scenario
