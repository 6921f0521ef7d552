import Highlight.Pass

/-!
# Sessions

A session is a host with its document, its decorations and its highlighting, on one timeline.  The
host edits the document and runs a change cycle for each edit, mounts and unmounts surfaces, and
takes the requests that reach it.
-/

namespace Highlight

/-- What the host says about a change cycle. -/
structure CycleNote where
  /-- The position of the focus; the types of the blocks around it are looked up. -/
  focus : Option Nat := none
  /-- The types before and after, when no position is given. -/
  focusBefore : Option String := none
  focusAfter : Option String := none
  externalSync : Bool := false
  /-- Says whether the document changed, in place of what is known of the edit. -/
  docChanged : Option Bool := none
  /-- Whether the change set of the edit is passed on. -/
  passMapping : Bool := true
  deriving DecidableEq, Repr

/-- A host at work. -/
structure Session where
  timeline : Timeline
  pass : Pass
  doc : Document
  decorations : DecorationSet := {}
  /-- The surface that was made last. -/
  surface : Nat

namespace Session

/-- A host with a document; there is a surface before any is mounted. -/
def start (timeline : Timeline) (pass : Pass) (doc : Document) : Session :=
  let (surface, timeline) := timeline.addSurface
  { timeline, pass, doc, surface }

/-- The change that a host reports after a document became another. -/
def change (note : CycleNote) (before after : Document) (edited : Bool)
    (mapping : Option ChangeSet) : Change where
  doc := after
  docChanged := note.docChanged.getD edited
  focusBefore := match note.focus with
    | some p => before.typeAt p
    | none => note.focusBefore
  focusAfter := match note.focus with
    | some p => after.typeAt p
    | none => note.focusAfter
  externalSync := note.externalSync
  mapping := if note.passMapping then mapping else none

def cycle (s : Session) (c : Change) : Session :=
  let (pass, timeline, decorations) := s.pass.apply s.timeline c s.decorations
  { s with pass, timeline, decorations, doc := c.doc }

def idle (s : Session) (note : CycleNote) : Session := s.cycle (change note s.doc s.doc false none)

/-- Edits the document and runs a change cycle; an edit that is refused changes nothing. -/
def edit (s : Session) (e : Edit) (note : CycleNote) : Except EditError Session :=
  match s.doc.edit e with
  | .error err => .error err
  | .ok (doc, c) => .ok (s.cycle (change note s.doc doc true (some c)))

def deliver (s : Session) : Session := s.cycle (.requested s.doc)

def mount (s : Session) : Session :=
  let (surface, timeline) := s.timeline.addSurface
  let (pass, timeline) := s.pass.mount timeline surface
  { s with surface, pass, timeline }

def unmount (s : Session) : Session :=
  let (pass, timeline) := s.pass.unmount s.timeline
  { s with pass, timeline }

/-- Tears the newest surface down without telling the highlighting. -/
def tearDown (s : Session) : Session := { s with timeline := s.timeline.tearDown s.surface }

def close (s : Session) : Session := { s with timeline := { s.timeline with inbox := none } }

/-- Takes the next request, if there is one. -/
def take (s : Session) : Option Request × Session :=
  match s.timeline.inbox with
  | some (r :: rest) => (some r, { s with timeline := { s.timeline with inbox := some rest } })
  | _ => (none, s)

/-- Takes the next request, waiting for it for at most `ms` milliseconds. -/
def next (s : Session) (ms : Nat) : Option Request × Session :=
  { s with
    timeline := s.timeline.runUntil Timeline.hasRequest ms }.take

end Session

end Highlight
