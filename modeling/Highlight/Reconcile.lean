/-!
# Recompute or remap

After each change the decorations are either computed anew or carried across by the change set.  The
decision looks at the facts of the change and at what the last computation achieved.
-/

namespace Highlight

/-- What the last computation achieved. -/
inductive Phase where
  /-- There was none yet. -/
  | clean
  /-- Every region with an available grammar was covered. -/
  | highlighted
  /-- Some region waits for its grammar. -/
  | awaitingGrammar
  deriving DecidableEq, Repr

/-- The facts of a change that the decision looks at. -/
structure ChangeFacts where
  docChanged : Bool := false
  /-- The focus was in a code block before or after the change. -/
  touchesRegion : Bool := false
  externalSync : Bool := false
  deriving DecidableEq, Repr

/-- Why decorations are computed anew. -/
inductive Reason where
  | externalSync
  | regionEdited
  | firstPass
  | awaitingGrammar
  deriving DecidableEq, Repr

/-- What happens to the decorations at a change. -/
inductive Decision where
  | recompute (reason : Reason)
  | remap
  deriving DecidableEq, Repr

namespace Phase

/-- A change from outside or inside a region always asks for a computation; otherwise only a phase
that leaves something to do asks for one. -/
def decide (phase : Phase) (change : ChangeFacts) : Decision :=
  if change.externalSync then .recompute .externalSync
  else if change.docChanged && change.touchesRegion then .recompute .regionEdited
  else
    match phase with
    | clean => .recompute .firstPass
    | awaitingGrammar => .recompute .awaitingGrammar
    | highlighted => .remap

def afterPass (incomplete : Bool) : Phase :=
  if incomplete then awaitingGrammar else highlighted

end Phase

end Highlight
