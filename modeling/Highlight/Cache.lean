import Highlight.Decoration
import Highlight.Region
import Highlight.Table

/-!
# The region cache

The cache remembers the decorations of each region's last tokenization by the identity of its block.
They are used again only while language and text are the same; when the block has moved, they move
with it.
-/

namespace Highlight

/-- What the cache knows about a region. -/
structure CacheEntry where
  language : Option String
  text : String
  /-- Where the region's text started when the decorations were placed. -/
  origin : Nat
  decorations : List Decoration
  deriving DecidableEq, Repr

namespace CacheEntry

/-- Whether a region still has the language and the text of the entry. -/
def fits (e : CacheEntry) (r : Region) : Bool := e.text == r.text && e.language == r.language

/-- The entry with its decorations moved to where a region's text starts. -/
def movedTo (e : CacheEntry) (start : Nat) : CacheEntry :=
  if e.origin = start then e
  else
    { e with
      origin := start
      decorations := e.decorations.map (·.shifted (distance e.origin start)) }

end CacheEntry

/-- The decorations of the last tokenization of each region. -/
structure TokenCache where
  entries : Table NodeId CacheEntry := {}

namespace TokenCache

/-- The cache that knows nothing. -/
def empty : TokenCache := {}

/-- The entry that can be used for a region, moved to where the region is. -/
def entry? (c : TokenCache) (r : Region) : Option CacheEntry :=
  match c.entries.get? r.id with
  | none => none
  | some e => if e.fits r then some (e.movedTo r.start) else none

/-- The decorations of a region, if they are known, and the cache afterwards. -/
def get (c : TokenCache) (r : Region) : Option (List Decoration) × TokenCache :=
  match c.entry? r with
  | none => (none, c)
  | some e => (some e.decorations, ⟨c.entries.insert r.id e⟩)

/-- Remembers the decorations of a region in place of what was known about its block. -/
def put (c : TokenCache) (r : Region) (ds : List Decoration) : TokenCache :=
  ⟨c.entries.insert r.id ⟨r.language, r.text, r.start, ds⟩⟩

def prune (c : TokenCache) (live : List Region) : TokenCache :=
  ⟨c.entries.keep fun id => live.any (·.id == id)⟩

def contains (c : TokenCache) (id : NodeId) : Bool := c.entries.contains id

def size (c : TokenCache) : Nat := c.entries.size

def staleCount (c : TokenCache) (live : List Region) : Nat := c.size - (c.prune live).size

end TokenCache

end Highlight
