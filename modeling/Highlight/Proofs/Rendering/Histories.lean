import Highlight.Proofs.Rendering.Passes

/-!
# Engines with a past

An engine computes one document after another while others load and register grammars in the
registry that it shares with them.  Whatever it has computed before, a pass gives the decorations
from scratch.
-/

namespace Highlight

inductive EngineEvent where
  | registry (e : RegistryEvent)
  | recompute (d : Document)

namespace Engine

def occur (e : Engine) (r : Registry) (now : Nat) : EngineEvent → Engine × Registry
  | .registry event => (e, r.occur now event)
  | .recompute d => (e.recompute r now d).2

def after (e : Engine) (r : Registry) : List (Nat × EngineEvent) → Engine × Registry
  | [] => (e, r)
  | event :: events =>
      let next := e.occur r event.1 event.2
      next.1.after next.2 events

def Warm (e : Engine) (r : Registry) : Prop := e.cache.Fresh r.grammar? e.limits

theorem warm_new (scanner : Scanner) (limits : Limits) (r : Registry) :
    Warm { scanner, limits } r := TokenCache.fresh_empty

theorem Warm.turn {e : Engine} {r r' : Registry} {a : Option String} (h : e.Warm r)
    (t : Registry.Turn r a r') : e.Warm r' :=
  TokenCache.Fresh.mono h fun _ _ => t.grammar?_eq

theorem Warm.recompute {e : Engine} {r : Registry} (h : e.Warm r) (now : Nat) {d : Document}
    (hd : d.size ≤ positionBound) :
    (e.recompute r now d).2.1.Warm (e.recompute r now d).2.2 := by
  obtain ⟨-, hknown, hfresh⟩ := recompute_scratch now h hd
  rw [Warm, hknown]
  exact hfresh

/-- An engine stays warm, and scans with the same limits. -/
theorem Warm.after {e : Engine} {r : Registry} (h : e.Warm r) {events : List (Nat × EngineEvent)}
    (hsize : ∀ now d, (now, .recompute d) ∈ events → d.size ≤ positionBound) :
    (e.after r events).1.Warm (e.after r events).2 ∧
      (e.after r events).1.scanner = e.scanner ∧ (e.after r events).1.limits = e.limits := by
  induction events generalizing e r with
  | nil => exact ⟨h, rfl, rfl⟩
  | cons event events ih =>
      have hrest : ∀ now d, (now, .recompute d) ∈ events → d.size ≤ positionBound :=
        fun now d hmem => hsize now d (List.mem_cons_of_mem _ hmem)
      rcases event with ⟨now, _ | d⟩
      · rename_i registryEvent
        rcases r.occur_turn now registryEvent with t | ⟨_, _, _, t⟩
        · exact ih (h.turn t) hrest
        · exact ih (h.turn t) hrest
      · exact ih (h.recompute now (hsize now d List.mem_cons_self)) hrest

/-- The warm cache never changes a result: after any events, a pass over a document gives for each
block of the region type the labelled tokens of its checked tokenization with the grammar that is
registered for its language, where the block's content stands, and nothing for all other blocks. -/
theorem recompute_after_eq_scratch (scanner : Scanner) (limits : Limits) (r : Registry)
    (events : List (Nat × EngineEvent)) (now : Nat) (d : Document)
    (hsize : ∀ time doc, (time, .recompute doc) ∈ events → doc.size ≤ positionBound)
    (hd : d.size ≤ positionBound) :
    let engine := (after { scanner, limits } r events).1
    let registry := (after { scanner, limits } r events).2
    (engine.recompute registry now d).1.decorations.toList =
      (d.placed.filter (·.block.type == scanner.type)).flatMap
        (Placed.scratch registry.grammar? limits) := by
  obtain ⟨hwarm, hscanner, hlimits⟩ := (warm_new scanner limits r).after hsize
  intro engine registry
  have h := (recompute_scratch now hwarm hd).1
  rwa [hscanner, hlimits] at h

/-- The block of a first document moves in a second one, and its cached decoration with it. -/
theorem recompute_after_block_moved :
    let block : Block := { id := 1, language := some "x", text := "ab" }
    let events : List (Nat × EngineEvent) :=
      [(0, .registry (.register "x" .whole)), (1, .recompute ⟨[block]⟩)]
    let d : Document := ⟨[{ id := 2, type := "paragraph", text := "p" }, block]⟩
    let s := after { scanner := {}, limits := {} } {} events
    (∀ time doc, (time, .recompute doc) ∈ events → doc.size ≤ positionBound) ∧
      d.size ≤ positionBound ∧
      (s.1.recompute s.2 2 d).1.decorations.toList = [⟨4, 6, ["text"]⟩] := by
  intro block events d s
  have hevents : ∀ time doc, (time, .recompute doc) ∈ events → doc.size ≤ positionBound := by
    intro time doc h
    obtain ⟨-, rfl⟩ : time = 1 ∧ doc = ⟨[block]⟩ := by simpa [events] using h
    decide
  have hd : d.size ≤ positionBound := by decide
  refine ⟨hevents, hd, ?_⟩
  exact (recompute_after_eq_scratch {} {} {} events 2 d hevents hd).trans (by decide +kernel)

end Engine

end Highlight
