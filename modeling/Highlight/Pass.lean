import Highlight.Engine
import Highlight.Reconcile
import Highlight.Settings
import Highlight.Surface.Scheduler

/-!
# Highlighting passes

A pass object is what a document's host drives: for every change cycle it decides whether to compute
the decorations anew or to carry the old ones across, and it asks for more passes as long as
something is left to do.
-/

namespace Highlight

/-- A change cycle. -/
structure Change where
  /-- The document after the change. -/
  doc : Document
  docChanged : Bool := false
  /-- The type of the block with the focus before the change. -/
  focusBefore : Option String := none
  /-- The type of the block with the focus after the change. -/
  focusAfter : Option String := none
  externalSync : Bool := false
  /-- How positions move; none do when there is no change set. -/
  mapping : Option ChangeSet := none
  deriving DecidableEq, Repr

/-- The facts of a change for a scanner's region type. -/
def Change.facts (c : Change) (s : Scanner) : ChangeFacts where
  docChanged := c.docChanged
  touchesRegion := s.isRegionType c.focusBefore || s.isRegionType c.focusAfter
  externalSync := c.externalSync

/-- The change cycle of a request; the document is as it was. -/
def Change.requested (doc : Document) : Change := { doc }

/-- Highlighting of one document. -/
structure Pass where
  engine : Engine
  scheduler : Scheduler
  phase : Phase := .clean
  lastStats : Option PassStats := none

namespace Pass

def ofSettings (s : Settings) : Pass where
  engine := { scanner := ⟨s.codeBlockType⟩, limits := s.limits }
  scheduler := { delay := s.deferDelay }

/-- Computes the decorations anew, and waits for the loads they lack. -/
def recompute (p : Pass) (w : Timeline) (doc : Document) : Pass × Timeline × DecorationSet :=
  let (pass, engine, registry) := p.engine.recompute w.registry w.now doc
  let w := w.setRegistry registry
  let (scheduler, w) :=
    if pass.incomplete then p.scheduler.followUp w pass.pending else (p.scheduler, w)
  ({ engine, scheduler, phase := .afterPass pass.incomplete, lastStats := some pass.stats }, w,
    pass.decorations)

def apply (p : Pass) (w : Timeline) (change : Change) (previous : DecorationSet) :
    Pass × Timeline × DecorationSet :=
  match p.phase.decide (change.facts p.engine.scanner) with
  | .recompute _ => p.recompute w change.doc
  | .remap =>
      (p, w, match change.mapping with
        | some c => previous.map c
        | none => previous)

/-- Attaches a surface.  Unless the last pass covered everything, a deferred pass follows. -/
def mount (p : Pass) (w : Timeline) (surface : Nat) : Pass × Timeline :=
  let (scheduler, w) := p.scheduler.attach w surface
  let w := if p.phase = .highlighted then w else (scheduler.scheduleDeferred w).2
  ({ p with scheduler }, w)

def unmount (p : Pass) (w : Timeline) : Pass × Timeline :=
  let (scheduler, w) := p.scheduler.detach w
  ({ p with scheduler }, w)

end Pass

end Highlight
