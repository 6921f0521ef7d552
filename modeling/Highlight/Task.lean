/-!
# Background tasks

How a task is scheduled, and what is known about one that failed.
-/

namespace Highlight

/-- How a task is scheduled. -/
inductive TaskClass where
  /-- Timers that end in a dispatch to a surface. -/
  | interactive
  /-- Loads and the passes that wait for them. -/
  | background
  /-- Work that keeps a processor busy. -/
  | cpuBlocking
  deriving DecidableEq, Repr

/-- Whether tasks of the class are kept off the threads that must stay responsive. -/
def TaskClass.isBlocking : TaskClass → Bool
  | cpuBlocking => true
  | _ => false

/-- What a crashing task leaves behind: a text of its own or one known from the start, or something
that is no text. -/
inductive CrashPayload where
  | fixedText (text : String)
  | ownText (text : String)
  | other
  deriving DecidableEq, Repr

/-- The text of the payload, if it carries one. -/
def CrashPayload.message? : CrashPayload → Option String
  | fixedText text => some text
  | ownText text => some text
  | other => none

/-- How a task failed. -/
inductive TaskFailure where
  | cancelled
  | crashed (payload : CrashPayload)
  deriving DecidableEq, Repr

namespace TaskFailure

def isCancelled : TaskFailure → Bool
  | cancelled => true
  | crashed _ => false

/-- The message of a crash; a cancelled task has none. -/
def message? : TaskFailure → Option String
  | cancelled => none
  | crashed payload => some (payload.message?.getD "<non-string panic payload>")

end TaskFailure

end Highlight
