import Highlight.Grammar.Source
import Highlight.Registry.Basic

/-!
# Scripted supply

How the loaders of a scenario behave: each call for a tag may have to wait for a gate, then takes
some time, and ends as the script for the tag says.
-/

namespace Highlight

/-- How a call of a loader ends. -/
inductive CallEnd where
  /-- The loader gives its grammar. -/
  | grammar
  | failed (reason : String)
  | notFound
  | invalidPattern (label : String)
  /-- The task of the load crashes, so that no result is reported. -/
  | crash
  deriving DecidableEq, Repr

/-- How the task of a load comes to its end. -/
inductive TaskEnd where
  /-- The loader came back with a result. -/
  | answered (result : LoadResult)
  | crashed
  /-- The task is not run any further. -/
  | stopped

/-- The result that is reported; a load without an answer is abandoned. -/
def TaskEnd.report (language : String) : TaskEnd → LoadResult
  | answered result => result
  | crashed => .error (.abandoned language)
  | stopped => .error (.abandoned language)

/-- The end of the task that has made the call. -/
def CallEnd.taskEnd (loader : Loader) (language : String) : CallEnd → TaskEnd
  | grammar => .answered (loader.grammar language)
  | failed reason => .answered (.error (.loadFailed language reason))
  | notFound => .answered (.error (.notFound language))
  | invalidPattern label => .answered (.error (.invalidPattern language label))
  | crash => .crashed

/-- The result that a load's task reports. -/
def CallEnd.result (loader : Loader) (language : String) (callEnd : CallEnd) : LoadResult :=
  (callEnd.taskEnd loader language).report language

namespace Loader

def builtin : Loader := ⟨Builtin.provides, Builtin.load⟩

def tinyGrammar (name : String) : LoadResult :=
  ((RuleTree.named name).rule "keyword" (Pattern.words ["x"])).compile.map RuleTree.toGrammar

/-- A loader for some tags.  Without a name it gives built-in grammars where there are any;
otherwise the name shows in its grammars. -/
def named (name : String) (tags : List String) : Loader where
  provides := tags.contains
  grammar language :=
    if name.isEmpty && Builtin.provides language then Builtin.load language
    else tinyGrammar (name ++ ":" ++ language)

end Loader

/-- How calls of loaders go. -/
structure Supply where
  /-- The ends of a tag's calls in order; the last one goes on. -/
  script : List (String × List CallEnd) := []
  /-- The milliseconds that a call for a tag takes. -/
  delays : List (String × Nat) := []
  /-- The tags with a gate, and whether it is open. -/
  gates : Table String Bool := {}
  /-- The number of calls for each tag so far. -/
  calls : Table String Nat := {}

namespace Supply

/-- How many calls there were for a tag. -/
def callCount (s : Supply) (language : String) : Nat := (s.calls.get? language).getD 0

/-- Counts a call for a tag. -/
def countCall (s : Supply) (language : String) : Supply :=
  { s with calls := s.calls.insert language (s.callCount language + 1) }

/-- Whether calls for a tag may go on; a tag without a gate is never held up. -/
def isOpen (s : Supply) (language : String) : Bool := (s.gates.get? language).getD true

/-- Opens or closes the gate of a tag, if it has one. -/
def setGate (s : Supply) (language : String) (isOpen : Bool) : Supply :=
  if s.gates.contains language then { s with gates := s.gates.insert language isOpen } else s

/-- The time that a call for a tag takes. -/
def delay (s : Supply) (language : String) : Nat := (s.delays.lookup language).getD 0

/-- How the call for a tag with a number, counted from 0, ends. -/
def callEnd (s : Supply) (language : String) (number : Nat) : CallEnd :=
  match s.script.lookup language with
  | none => .grammar
  | some ends => (ends[number]? <|> ends.getLast?).getD .grammar

end Supply

end Highlight
