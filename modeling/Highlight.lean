import Highlight.Pattern.Needs
import Highlight.Scenario.Engines
import Highlight.Scenario.Schedules
import Highlight.Scenario.Sessions
import Highlight.Surface.Errand
import Highlight.Task
import Highlight.Proofs.Registry.Sound
import Highlight.Proofs.Document.Layout
import Highlight.Proofs.Grammar.Checked
import Highlight.Proofs.Rendering.Scratch
import Highlight.Proofs.Rendering.WarmCache
import Highlight.Proofs.Rendering.Passes
import Highlight.Proofs.Rendering.Histories
import Highlight.Proofs.Document.Splice
import Highlight.Proofs.Rendering.Remap
import Highlight.Proofs.Session.Acts
import Highlight.Proofs.Session.Exactness
import Highlight.Proofs.Session.Wakeful
import Highlight.Proofs.Session.Ledger
import Highlight.Proofs.Session.FollowUps
import Highlight.Proofs.Session.Scenes
import Highlight.Proofs.Registry.Flights
import Highlight.Proofs.Registry.Guards
import Highlight.Proofs.Registry.Finality
import Highlight.Proofs.Registry.Retries
import Highlight.Proofs.Registry.Calls
import Highlight.Proofs.Rendering.Tidy
import Highlight.Proofs.Session.Tidiness
import Highlight.Proofs.Surface.Settling
import Highlight.Proofs.Grammar.Scans
import Highlight.Proofs.Pattern.Leftmost
import Highlight.Proofs.Grammar.Rounds
import Highlight.Proofs.Grammar.Trees
import Highlight.Proofs.Grammar.Cursors
import Highlight.Proofs.Document.Scripts
import Highlight.Proofs.Document.Flattening
import Highlight.Proofs.Rendering.Increments
import Highlight.Proofs.Session.Moves
import Highlight.Proofs.Session.Teardown
import Highlight.Proofs.Session.Timers
import Highlight.Proofs.Grammar.Limits
import Highlight.Proofs.Grammar.Coverage
import Highlight.Proofs.Pattern.Measures
import Highlight.Proofs.Pattern.Rooms
import Highlight.Proofs.Grammar.Readable
import Highlight.Proofs.Builtin.Patterns
import Highlight.Proofs.Grammar.Nesting
import Highlight.Proofs.Builtin.Depth
import Highlight.Proofs.ChangeSet.Readings
import Highlight.Proofs.ChangeSet.Words
import Highlight.Proofs.ChangeSet.NormalForm
import Highlight.Proofs.ChangeSet.Arrivals
import Highlight.Proofs.ChangeSet.Positions
import Highlight.Proofs.Rendering.Survivors
import Highlight.Proofs.Document.Counts
import Highlight.Proofs.Document.Replacements
import Highlight.Proofs.Document.Undo
import Highlight.Proofs.Rendering.Focus
import Highlight.Proofs.Rendering.Memories
import Highlight.Proofs.Rendering.Accounts
import Highlight.Proofs.Registry.Waits
import Highlight.Proofs.Registry.Views
import Highlight.Proofs.Grammar.Blame
import Highlight.Proofs.Registry.Lone
import Highlight.Proofs.Registry.Mirrors
import Highlight.Proofs.Surface.Mirroring
import Highlight.Proofs.Surface.Isolation
import Highlight.Proofs.Grammar.Searches
import Highlight.Proofs.Grammar.Building
import Highlight.Proofs.Grammar.Context
import Highlight.Proofs.Pattern.Plain
import Highlight.Proofs.Pattern.WordLists
import Highlight.Proofs.Pattern.WholeWords
import Highlight.Proofs.Grammar.WordRules
