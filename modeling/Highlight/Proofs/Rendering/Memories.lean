import Highlight.Proofs.Rendering.WarmCache
import Mathlib.Data.Set.Card

/-!
# The cache as a map

Asked anything in any order, the cache answers like a map that gives for a block the language and
the text of its last tokenization, and the decorations as they lie in the text.  The map knows no
positions: it is not changed when somebody asks for a region, wherever the region is.  The cache
does keep positions and moves its decorations to each place that it is asked for, so each of its
entries has to stay as far from its origin as it was put there, and every move has to be exact.
-/

namespace Highlight

inductive CacheRequest where
  | put (r : Region) (ds : List Decoration)
  | get (r : Region)
  | prune (live : List Region)
  | contains (id : NodeId)
  deriving DecidableEq, Repr

inductive CacheAnswer where
  | done
  | found (ds? : Option (List Decoration))
  /-- The number of entries that were dropped. -/
  | dropped (n : Nat)
  | known (isKnown : Bool)
  deriving DecidableEq, Repr

namespace TokenCache

def answer (c : TokenCache) : CacheRequest → CacheAnswer × TokenCache
  | .put r ds => (.done, c.put r ds)
  | .get r => (.found (c.get r).1, (c.get r).2)
  | .prune live => (.dropped (c.staleCount live), c.prune live)
  | .contains id => (.known (c.contains id), c)

def answers (c : TokenCache) : List CacheRequest → List CacheAnswer
  | [] => []
  | q :: qs => (c.answer q).1 :: (c.answer q).2.answers qs

end TokenCache

namespace Decoration

/-- The decoration in a text that starts at a position. -/
def seenFrom (origin : Nat) (d : Decoration) : Decoration :=
  { d with start := d.start - origin, stop := d.stop - origin }

def placedAt (origin : Nat) (d : Decoration) : Decoration :=
  { d with start := origin + d.start, stop := origin + d.stop }

/-- The decoration lies behind a position, at a distance that can be written down. -/
def Near (origin : Nat) (d : Decoration) : Prop :=
  (origin ≤ d.start ∧ d.start < origin + positionBound) ∧
    origin ≤ d.stop ∧ d.stop < origin + positionBound

end Decoration

/-- What is remembered of a block; the decorations are those of a text that starts at zero. -/
structure Memory where
  language : Option String
  text : String
  decorations : List Decoration
  deriving DecidableEq, Repr

abbrev Memories := NodeId → Option Memory

namespace Memories

/-- The decorations of a region where it is now, if its language and its text are those
remembered. -/
def decorations? (m : Memories) (r : Region) : Option (List Decoration) :=
  match m r.id with
  | none => none
  | some k =>
      if k.language = r.language ∧ k.text = r.text then
        some (k.decorations.map (·.placedAt r.start))
      else none

noncomputable def answer (m : Memories) : CacheRequest → CacheAnswer × Memories
  | .put r ds =>
      (.done, fun id =>
        if id = r.id then some ⟨r.language, r.text, ds.map (·.seenFrom r.start)⟩ else m id)
  | .get r => (.found (m.decorations? r), m)
  | .prune live =>
      (.dropped {id | m id ≠ none ∧ ∀ r ∈ live, r.id ≠ id}.ncard,
        fun id => if ∃ r ∈ live, r.id = id then m id else none)
  | .contains id => (.known (m id).isSome, m)

noncomputable def answers (m : Memories) : List CacheRequest → List CacheAnswer
  | [] => []
  | q :: qs => (m.answer q).1 :: answers (m.answer q).2 qs

end Memories

/-- Positions are below the bound, and decorations are put at or behind the start of their
region. -/
def CacheRequest.InRange : CacheRequest → Prop
  | .put r ds => r.start < positionBound ∧ ∀ d ∈ ds,
      (r.start ≤ d.start ∧ d.start < positionBound) ∧ r.start ≤ d.stop ∧ d.stop < positionBound
  | .get r => r.start < positionBound
  | .prune _ => True
  | .contains _ => True

instance : DecidablePred CacheRequest.InRange
  | .put _ _ => inferInstanceAs (Decidable (_ ∧ _))
  | .get _ => inferInstanceAs (Decidable (_ < _))
  | .prune _ => isTrue trivial
  | .contains _ => isTrue trivial

/-! ### Moves -/

theorem Decoration.shifted_eq {d : Decoration} {p q : Nat} (h : d.Near p) (hp : p < positionBound)
    (hq : q < positionBound) : d.shifted (distance p q) = (d.seenFrom p).placedAt q := by
  obtain ⟨⟨hstart, hstart'⟩, hstop, hstop'⟩ := h
  have hmoved : ∀ i, p ≤ i → i < p + positionBound → shiftPos i (distance p q) = q + (i - p) := by
    intro i hi hi'
    have heq := shiftPos_distance (i := i - p) hp hq (by omega)
    rwa [Nat.add_sub_cancel' hi] at heq
  simp only [shifted, seenFrom, placedAt, hmoved _ hstart hstart', hmoved _ hstop hstop']

theorem Decoration.near_placedAt {d : Decoration} {p : Nat} (h : d.Near p) (q : Nat) :
    ((d.seenFrom p).placedAt q).Near q := by
  simp only [Near, seenFrom, placedAt] at h ⊢
  omega

theorem Decoration.seenFrom_placedAt (d : Decoration) (q : Nat) :
    (d.placedAt q).seenFrom q = d := by
  simp [seenFrom, placedAt]

theorem Decoration.placedAt_seenFrom {d : Decoration} {p : Nat} (h : d.Near p) :
    (d.seenFrom p).placedAt p = d := by
  obtain ⟨⟨hstart, -⟩, hstop, -⟩ := h
  simp [seenFrom, placedAt, Nat.add_sub_cancel' hstart, Nat.add_sub_cancel' hstop]

namespace CacheEntry

variable {e : CacheEntry}

/-- What the entry says of a block, without its position. -/
def memory (e : CacheEntry) : Memory :=
  ⟨e.language, e.text, e.decorations.map (·.seenFrom e.origin)⟩

theorem fits_iff (e : CacheEntry) (r : Region) :
    e.fits r = true ↔ e.memory.language = r.language ∧ e.memory.text = r.text := by
  simp only [fits, memory, Bool.and_eq_true, beq_iff_eq, and_comm]

structure Sound (e : CacheEntry) : Prop where
  origin_lt : e.origin < positionBound
  near : ∀ d ∈ e.decorations, d.Near e.origin

theorem Sound.decorations_eq (h : e.Sound) :
    e.memory.decorations.map (·.placedAt e.origin) = e.decorations := by
  have hback : ∀ d ∈ e.decorations, (d.seenFrom e.origin).placedAt e.origin = d :=
    fun d hd => Decoration.placedAt_seenFrom (h.near d hd)
  rw [memory, List.map_map]
  exact (List.map_congr_left hback).trans (List.map_id' _)

/-- A move takes the decorations along and leaves what is remembered. -/
theorem Sound.movedTo (h : e.Sound) {start : Nat} (hs : start < positionBound) :
    (e.movedTo start).Sound ∧ (e.movedTo start).memory = e.memory ∧
      (e.movedTo start).decorations = e.memory.decorations.map (·.placedAt start) := by
  unfold CacheEntry.movedTo
  split
  · rename_i ho
    exact ⟨h, rfl, ho ▸ h.decorations_eq.symm⟩
  · have hmoved : e.decorations.map (·.shifted (distance e.origin start)) =
        e.memory.decorations.map (·.placedAt start) := by
      rw [memory, List.map_map]
      apply List.map_congr_left
      intro d hd
      exact Decoration.shifted_eq (h.near d hd) h.origin_lt hs
    have hnear : ∀ d ∈ e.memory.decorations.map (·.placedAt start), d.Near start := by
      simp only [memory, List.map_map, List.forall_mem_map]
      exact fun d hd => Decoration.near_placedAt (h.near d hd) start
    have hback : (e.memory.decorations.map (·.placedAt start)).map (·.seenFrom start) =
        e.memory.decorations := by
      rw [List.map_map]
      exact List.map_id'' (fun d => d.seenFrom_placedAt start) _
    rw [hmoved]
    exact ⟨⟨hs, hnear⟩, congrArg (Memory.mk e.language e.text) hback, rfl⟩

end CacheEntry

/-! ### Keys -/

namespace Table

variable {K V : Type}

theorem size_keep_add (t : Table K V) (p : K → Bool) :
    (t.keep p).size + (t.keep fun k => !p k).size = t.size := by
  have hsplit := List.length_eq_length_filter_add (l := t.entries) fun e => p e.1
  simp only [size, keep, hsplit]

variable [DecidableEq K]

theorem contains_iff (t : Table K V) (k : K) :
    t.contains k = true ↔ k ∈ t.entries.map Prod.fst := by
  simp [contains, get?, List.lookup_isSome_iff]

theorem ncard_keys (t : Table K V) : {k | t.contains k}.ncard = t.size := by
  have hkeys : {k | t.contains k} = ↑(t.entries.map Prod.fst).toFinset := by
    ext k
    rw [Set.mem_ofPred_eq, t.contains_iff, Finset.mem_coe, List.mem_toFinset]
  rw [hkeys, Set.ncard_coe_finset, List.toFinset_card_of_nodup t.nodup_keys, List.length_map, size]

end Table

namespace TokenCache

variable {c : TokenCache} {r : Region}

/-- The map that the cache stands for. -/
def memories (c : TokenCache) : Memories := fun id => (c.entries.get? id).map CacheEntry.memory

theorem memories_eq_none {id : NodeId} : c.memories id = none ↔ c.entries.contains id = false := by
  rw [memories, Option.map_eq_none_iff, Table.contains, Option.isSome_eq_false_iff,
    Option.isNone_iff_eq_none]

theorem memories_insert (c : TokenCache) (id : NodeId) (e : CacheEntry) :
    memories ⟨c.entries.insert id e⟩ = fun i => if i = id then some e.memory else c.memories i := by
  funext i
  simp only [memories, Table.get?_insert]
  split <;> rfl

/-- Writing down again what is remembered changes nothing. -/
theorem memories_insert_eq_self {id : NodeId} {e : CacheEntry} (h : c.memories id = some e.memory) :
    memories ⟨c.entries.insert id e⟩ = c.memories := by
  rw [memories_insert, ← h]
  funext i
  split
  · rename_i hi
    rw [hi]
  · rfl

def Sound (c : TokenCache) : Prop := ∀ id e, c.entries.get? id = some e → e.Sound

theorem sound_empty : Sound empty := by
  intro id e he
  simp [empty, Table.get?] at he

theorem Sound.insert (h : c.Sound) {e : CacheEntry} (he : e.Sound) (id : NodeId) :
    Sound ⟨c.entries.insert id e⟩ :=
  Table.forall_insert h he id

theorem Sound.put (h : c.Sound) {ds : List Decoration} (hr : (CacheRequest.put r ds).InRange) :
    (c.put r ds).Sound := by
  obtain ⟨hstart, hds⟩ := hr
  refine h.insert ⟨hstart, fun d hd => ?_⟩ r.id
  obtain ⟨⟨h1, h2⟩, h3, h4⟩ := hds d hd
  exact ⟨⟨h1, Nat.lt_add_left _ h2⟩, h3, Nat.lt_add_left _ h4⟩

/-- What is found is what the map gives, and the map stays as it is. -/
theorem Sound.get (h : c.Sound) (hr : r.start < positionBound) :
    (c.get r).1 = c.memories.decorations? r ∧ (c.get r).2.Sound ∧
      (c.get r).2.memories = c.memories := by
  cases he : c.entries.get? r.id with
  | none =>
      have hfound : c.get r = (none, c) := by simp only [TokenCache.get, entry?, he]
      have hgiven : c.memories.decorations? r = none := by
        simp only [Memories.decorations?, memories, he, Option.map_none]
      rw [hfound, hgiven]
      exact ⟨rfl, h, rfl⟩
  | some e =>
      have hmemories : c.memories r.id = some e.memory := by
        simp only [memories, he, Option.map_some]
      have hgiven : c.memories.decorations? r = if e.fits r then
          some (e.memory.decorations.map (·.placedAt r.start)) else none := by
        simp only [Memories.decorations?, hmemories, e.fits_iff]
      by_cases hfit : e.fits r = true
      · obtain ⟨hsound, hmemory, hds⟩ := (h r.id e he).movedTo hr
        have hfound : c.get r =
            (some (e.movedTo r.start).decorations,
              ⟨c.entries.insert r.id (e.movedTo r.start)⟩) := by
          simp only [TokenCache.get, entry?, he, if_pos hfit]
        rw [hfound, hgiven, if_pos hfit, hds]
        exact ⟨rfl, h.insert hsound r.id, memories_insert_eq_self (hmemory ▸ hmemories)⟩
      · have hfound : c.get r = (none, c) := by simp only [TokenCache.get, entry?, he, if_neg hfit]
        rw [hfound, hgiven, if_neg hfit]
        exact ⟨rfl, h, rfl⟩

theorem Sound.prune (h : c.Sound) (live : List Region) : (c.prune live).Sound :=
  Table.forall_keep h _

theorem memories_prune (c : TokenCache) (live : List Region) :
    (c.prune live).memories = fun id => if ∃ r ∈ live, r.id = id then c.memories id else none := by
  funext id
  have hlive : (live.any (·.id == id)) = true ↔ ∃ r ∈ live, r.id = id := by simp
  simp only [memories, TokenCache.prune, Table.get?_keep, hlive]
  split <;> rfl

/-- The number of dropped entries counts the blocks that are forgotten. -/
theorem staleCount_eq (c : TokenCache) (live : List Region) :
    c.staleCount live = {id | c.memories id ≠ none ∧ ∀ r ∈ live, r.id ≠ id}.ncard := by
  have hdropped : {id | c.memories id ≠ none ∧ ∀ r ∈ live, r.id ≠ id} =
      {id | (c.entries.keep fun id => !live.any (·.id == id)).contains id} := by
    ext id
    have hlive : (live.any (·.id == id)) = false ↔ ∀ r ∈ live, r.id ≠ id := by simp
    rw [Set.mem_ofPred_eq, Set.mem_ofPred_eq, ne_eq, memories_eq_none, Bool.not_eq_false, ← hlive,
      Table.contains, Table.contains, Table.get?_keep]
    cases live.any (·.id == id) <;> simp
  rw [hdropped, Table.ncard_keys]
  exact (Nat.eq_sub_of_add_eq' (c.entries.size_keep_add _)).symm

/-- One request: the answer of the map, and a cache that stands for the map afterwards. -/
theorem Sound.answer (h : c.Sound) {q : CacheRequest} (hq : q.InRange) :
    (c.answer q).1 = (c.memories.answer q).1 ∧
      (c.answer q).2.Sound ∧ (c.answer q).2.memories = (c.memories.answer q).2 := by
  cases q with
  | put r ds => exact ⟨rfl, h.put hq, memories_insert c r.id _⟩
  | get r =>
      obtain ⟨hfound, hsound, hmemories⟩ := h.get hq
      exact ⟨congrArg CacheAnswer.found hfound, hsound, hmemories⟩
  | prune live =>
      exact ⟨congrArg CacheAnswer.dropped (c.staleCount_eq live), h.prune live,
        c.memories_prune live⟩
  | contains id =>
      have hknown : c.contains id = (c.memories id).isSome := Option.isSome_map.symm
      exact ⟨congrArg CacheAnswer.known hknown, h, rfl⟩

theorem Sound.answers (h : c.Sound) {qs : List CacheRequest} (hqs : ∀ q ∈ qs, q.InRange) :
    c.answers qs = c.memories.answers qs := by
  induction qs generalizing c with
  | nil => rfl
  | cons q qs ih =>
      obtain ⟨hanswer, hsound, hmemories⟩ := h.answer (hqs q List.mem_cons_self)
      have hrest := ih hsound fun q' hq' => hqs q' (List.mem_cons_of_mem q hq')
      rw [TokenCache.answers, Memories.answers, hanswer, hrest, hmemories]

/-- The new cache answers all requests as the map does that remembers nothing at first. -/
theorem cache_answers_like_a_map (requests : List CacheRequest) (h : ∀ q ∈ requests, q.InRange) :
    empty.answers requests = Memories.answers (fun _ => none) requests :=
  sound_empty.answers h

/-- A block is asked for at the far end, at the start and where it was; two questions in between
miss. -/
theorem cache_answers_after_far_moves :
    let r : Region := ⟨7, 4, 5, 7, some "x", "ab"⟩
    let requests : List CacheRequest :=
      [.put r [⟨6, 7, ["keyword"]⟩], .get { r with start := 9223372036854775807 },
        .get { r with start := 0, language := none }, .get { r with start := 0 },
        .get { r with text := "éb" }, .get r, .put { r with id := 8 } [],
        .prune [{ r with id := 8 }], .contains 7, .contains 8, .get r]
    (∀ q ∈ requests, q.InRange) ∧
      empty.answers requests = Memories.answers (fun _ => none) requests ∧
      empty.answers requests =
        [.done, .found (some [⟨9223372036854775808, 9223372036854775809, ["keyword"]⟩]),
          .found none, .found (some [⟨1, 2, ["keyword"]⟩]), .found none,
          .found (some [⟨6, 7, ["keyword"]⟩]), .done, .dropped 1, .known false, .known true,
          .found none] := by
  intro r requests
  have hrange : ∀ q ∈ requests, q.InRange := by decide +kernel
  exact ⟨hrange, cache_answers_like_a_map requests hrange, by decide +kernel⟩

end TokenCache

end Highlight
