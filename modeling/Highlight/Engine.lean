import Highlight.Cache
import Highlight.Registry.Basic

/-!
# Computing decorations

A pass scans a document, uses the cache where a region has not changed, tokenizes the other regions
that have a grammar, and starts the loads of grammars that are missing.  A region whose tokenization
fails stays plain.
-/

namespace Highlight

/-- The counts of one pass. -/
structure PassStats where
  regions : Nat := 0
  cacheHits : Nat := 0
  tokenized : Nat := 0
  /-- Regions left plain: no language, an unknown one or one that was given up. -/
  plain : Nat := 0
  /-- Regions that wait for a grammar. -/
  awaiting : Nat := 0
  /-- Tokenized regions without a result. -/
  failed : Nat := 0
  deriving DecidableEq, Repr

/-- The result of a pass. -/
structure RenderPass where
  decorations : DecorationSet
  /-- Whether some region waits for a grammar. -/
  incomplete : Bool
  /-- The loads to wait for, each once. -/
  pending : List Load
  stats : PassStats
  deriving DecidableEq, Repr

/-- The decorations of a region in the document. -/
def Region.decorate (r : Region) (tokens : List Token) : List Decoration :=
  (tokens.filter fun t => !t.labels.isEmpty).map fun t =>
    ⟨r.start + t.start, r.start + t.stop, t.labels⟩

/-- The decorations that a grammar gives a region, if it does not fail. -/
def Region.highlight? (r : Region) (g : Grammar) (limits : Limits) : Option (List Decoration) :=
  match g.check r.text limits with
  | .ok tokens => some (r.decorate tokens)
  | .error _ => none

/-- The language of a region, if it is one that can be highlighted. -/
def Region.language? (r : Region) : Option String :=
  r.language.filter fun tag => !Language.isPlain tag

/-- Computes the decorations of one document. -/
structure Engine where
  scanner : Scanner
  limits : Limits
  cache : TokenCache := {}

namespace Engine

/-- What a pass has done so far. -/
structure Progress where
  cache : TokenCache
  registry : Registry
  decorations : List Decoration := []
  incomplete : Bool := false
  pending : List Load := []
  stats : PassStats := {}

def Progress.leavePlain (p : Progress) : Progress :=
  { p with stats.plain := p.stats.plain + 1 }

/-- Waits for the load of a region's grammar. -/
def Progress.await (p : Progress) (load : Load) : Progress :=
  { p with
    incomplete := true
    pending := if p.pending.any (·.id == load.id) then p.pending else p.pending ++ [load]
    stats.awaiting := p.stats.awaiting + 1 }

/-- Decorates a region whose grammar is there, from the cache if possible. -/
def Progress.highlight (limits : Limits) (p : Progress) (r : Region) (g : Grammar) : Progress :=
  match p.cache.get r with
  | (some ds, cache) =>
      { p with
        cache := cache
        decorations := p.decorations ++ ds
        stats.cacheHits := p.stats.cacheHits + 1 }
  | (none, cache) =>
      let computed? := r.highlight? g limits
      let ds := computed?.getD []
      { p with
        cache := cache.put r ds
        decorations := p.decorations ++ ds
        stats.tokenized := p.stats.tokenized + 1
        stats.failed := p.stats.failed + if computed?.isSome then 0 else 1 }

def Progress.visit (limits : Limits) (now : Nat) (p : Progress) (r : Region) : Progress :=
  match r.language? with
  | none => p.leavePlain
  | some language =>
      match p.registry.grammar? language with
      | some g => p.highlight limits r g
      | none =>
          match p.registry.ensureLoaded now language with
          | (some load, registry) => { p with registry }.await load
          | (none, registry) =>
              -- the grammar may have been registered since the first look
              match registry.grammar? language with
              | some g => { p with registry }.highlight limits r g
              | none => { p with registry }.leavePlain

/-- Computes the decorations of all regions of a document; loads that it starts are noted in the
registry. -/
def recompute (e : Engine) (registry : Registry) (now : Nat) (d : Document) :
    RenderPass × Engine × Registry :=
  let regions := e.scanner.scan d
  let start : Progress :=
    { cache := e.cache, registry, stats := { regions := regions.length } }
  let p := regions.foldl (Progress.visit e.limits now) start
  ({ decorations := DecorationSet.ofList p.decorations
     incomplete := p.incomplete
     pending := p.pending
     stats := p.stats },
    { e with cache := p.cache.prune regions }, p.registry)

end Engine

end Highlight
