import Highlight.Surface.Timeline

/-!
# Setting a scene

A scenario starts with a registry, the behaviour of its loaders and some grammars that are
registered from the start.
-/

namespace Highlight.Scenario

/-- A loader as a scenario describes it. -/
inductive LoaderNote where
  | builtin
  | named (name : String) (tags : List String)
  deriving DecidableEq, Repr

def LoaderNote.loader : LoaderNote → Loader
  | builtin => .builtin
  | named name tags => .named name tags

/-- The scene of a scenario. -/
structure Setup where
  loaders : List LoaderNote := []
  script : List (String × List CallEnd) := []
  delays : List (String × Nat) := []
  /-- The tags with a gate; all gates are closed at first. -/
  gated : List String := []
  retry : RetryPolicy := {}
  /-- The tags whose built-in grammars are registered from the start. -/
  preload : List String := []

namespace Setup

def preloadInto (r : Registry) (tag : String) : Registry :=
  match Builtin.load tag with
  | .ok g => (r.register tag g).2
  | .error _ => r

def registry (s : Setup) : Registry :=
  s.preload.foldl preloadInto { loaders := s.loaders.map LoaderNote.loader, retry := s.retry }

def supply (s : Setup) : Supply where
  script := s.script
  delays := s.delays
  gates := s.gated.foldl (fun t tag => t.insert tag false) {}

def timeline (s : Setup) : Timeline :=
  { depot := { registry := s.registry, supply := s.supply } }

end Setup

end Highlight.Scenario
