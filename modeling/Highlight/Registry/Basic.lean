import Highlight.Grammar.Basic
import Highlight.Language
import Highlight.Registry.Retry
import Highlight.Table

/-!
# The grammar registry

The registry knows of each language tag whether its grammar is missing, being loaded or registered.
All who ask for a grammar while it is being loaded share one load; a registered grammar stays; a
failed load is counted, and the next one may begin only after a wait, until the tag is given up.

`ensureLoaded` starts a load and notes its task among those under way; `finish` takes the result of
such a task.  The result counts only if the load has not been overtaken by `register`.
-/

namespace Highlight

/-- A load, as those who wait for it know it. -/
structure Load where
  id : Nat
  language : String
  deriving DecidableEq, Repr

/-- What a loader comes back with. -/
abbrev LoadResult := Except GrammarError Grammar

/-- How a load ended. -/
abbrev LoadOutcome := Except GrammarError Unit

/-- A source of grammars for some language tags. -/
structure Loader where
  provides : String → Bool
  /-- What it comes back with when nothing goes wrong. -/
  grammar : String → LoadResult

/-- The state of a language tag. -/
inductive Slot where
  /-- The grammar is missing after so many failed loads; the next may not begin before a time. -/
  | unregistered (failures : Nat) (retryAt : Option Nat)
  /-- The grammar is being loaded, after so many failed loads. -/
  | loading (failures : Nat) (id : Nat)
  | registered (grammar : Grammar)

/-- What can be seen of a language tag. -/
inductive GrammarStatus where
  /-- Plain text, or nothing provides the tag. -/
  | unknown
  | unregistered (failures : Nat)
  | loading
  | registered
  /-- All loads that were allowed have failed. -/
  | gaveUp (failures : Nat)
  deriving DecidableEq, Repr

/-- The task of a load: which loader it calls, and when. -/
structure LoadTask where
  load : Load
  loader : Loader
  callAt : Nat

/-- The registry. -/
structure Registry where
  loaders : List Loader := []
  retry : RetryPolicy := {}
  slots : Table String Slot := {}
  /-- The number of the next load. -/
  nextId : Nat := 1
  /-- The tasks under way, in the order of their start. -/
  tasks : List LoadTask := []
  /-- How the loads that are over ended, by number. -/
  outcomes : Table Nat LoadOutcome := {}

namespace Registry

/-- The first loader that provides a tag. -/
def loaderFor? (r : Registry) (language : String) : Option Loader :=
  r.loaders.find? (·.provides language)

def grammar? (r : Registry) (language : String) : Option Grammar :=
  match r.slots.get? language with
  | some (.registered g) => some g
  | _ => none

/-- Whether the grammar of a tag is registered. -/
def isReady (r : Registry) (language : String) : Bool :=
  match r.slots.get? language with
  | some (.registered _) => true
  | _ => false

def status (r : Registry) (language : String) : GrammarStatus :=
  if Language.isPlain language then .unknown
  else
    match r.slots.get? language with
    | some (.registered _) => .registered
    | some (.loading _ _) => .loading
    | some (.unregistered failures _) =>
        if r.retry.givesUp failures then .gaveUp failures else .unregistered failures
    | none => if (r.loaderFor? language).isSome then .unregistered 0 else .unknown

/-- How a load ended, if it is over. -/
def outcome? (r : Registry) (l : Load) : Option LoadOutcome := r.outcomes.get? l.id

def isFinished (r : Registry) (l : Load) : Bool := (r.outcome? l).isSome

/-- Starts a load of a tag; the loader is called at once, or after the wait for a retry. -/
def start (r : Registry) (now : Nat) (language : String) (failures : Nat) (retryAt : Option Nat)
    (loader : Loader) : Load × Registry :=
  let load : Load := ⟨r.nextId, language⟩
  (load,
    { r with
      slots := r.slots.insert language (.loading failures load.id)
      nextId := r.nextId + 1
      tasks := r.tasks ++ [⟨load, loader, max now (retryAt.getD now)⟩] })

/-- Starts a load of a tag unless it is ready, being loaded, or cannot be loaded.  A load that is on
its way is given to all who ask. -/
def ensureLoaded (r : Registry) (now : Nat) (language : String) : Option Load × Registry :=
  if Language.isPlain language then (none, r)
  else
    match r.slots.get? language with
    | some (.registered _) => (none, r)
    | some (.loading _ id) => (some ⟨id, language⟩, r)
    | some (.unregistered failures retryAt) =>
        if r.retry.givesUp failures then (none, r)
        else
          match r.loaderFor? language with
          | none => (none, r)
          | some loader =>
              let (load, r) := r.start now language failures retryAt loader
              (some load, r)
    | none =>
        match r.loaderFor? language with
        | none => (none, r)
        | some loader =>
            let (load, r) := r.start now language 0 none loader
            (some load, r)

/-- Registers a grammar for a tag, unless one is registered; a load on its way is over then, with
success.  The answer says whether the grammar was taken. -/
def register (r : Registry) (language : String) (g : Grammar) : Bool × Registry :=
  match r.slots.get? language with
  | some (.registered _) => (false, r)
  | some (.loading _ id) =>
      (true,
        { r with
          slots := r.slots.insert language (.registered g)
          outcomes := r.outcomes.insert id (.ok ()) })
  | _ => (true, { r with slots := r.slots.insert language (.registered g) })

/-- Takes the result of a load, unless it is no longer the load of its tag. -/
def complete (r : Registry) (now : Nat) (l : Load) (result : LoadResult) : Registry :=
  match r.slots.get? l.language with
  | some (.loading failures id) =>
      if id = l.id then
        match result with
        | .ok g =>
            { r with
              slots := r.slots.insert l.language (.registered g)
              outcomes := r.outcomes.insert id (.ok ()) }
        | .error e =>
            { r with
              slots := r.slots.insert l.language
                (.unregistered (failures + 1) (some (now + r.retry.backoff (failures + 1))))
              outcomes := r.outcomes.insert id (.error e) }
      else r
  | _ => r

def finish (r : Registry) (now : Nat) (id : Nat) (result : LoadResult) : Registry :=
  match r.tasks.find? (·.load.id == id) with
  | none => r
  | some t => { r with tasks := r.tasks.filter (·.load.id != id) }.complete now t.load result

end Registry

end Highlight
