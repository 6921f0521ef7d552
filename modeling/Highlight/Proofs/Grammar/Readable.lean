import Highlight.Builtin.Parts
import Highlight.Proofs.Grammar.Trees
import Highlight.Proofs.Pattern.Measures
import Highlight.Proofs.Pattern.Rooms

/-!
# Trees of readable patterns

A tree is readable when all its patterns can be read.  That a given pattern can be read is found out
by reading its characters with rough rooms, which takes only a small computation; from the
characters of its parts, `Spells` puts together those of a pattern.
-/

namespace Highlight

namespace Pattern

/-! ### Texts and their characters -/

/-- The characters of the text. -/
def Spells (s : String) (cs : List Char) : Prop := s.toList = cs

/-- The characters of each of the texts. -/
inductive SpellsAll : List String → List (List Char) → Prop
  | nil : SpellsAll [] []
  | cons {ws : List String} {css : List (List Char)} (cs : List Char) (h : SpellsAll ws css) :
      SpellsAll (String.ofList cs :: ws) (cs :: css)

/-- The characters of an escaped text. -/
def escapeChars (cs : List Char) : List Char :=
  cs.flatMap fun c => if isMeta c then ['\\', c] else [c]

/-- The characters of the pattern for a list of words. -/
def wordChars (ws : List (List Char)) : List Char :=
  ['\\', 'b', '(', '?', ':'] ++ ['|'].intercalate (ws.map escapeChars) ++ [')', '\\', 'b']

theorem spells_literal (cs : List Char) : Spells (String.ofList cs) cs := String.toList_ofList

theorem Spells.append {s t : String} {cs ds : List Char} (hs : Spells s cs) (ht : Spells t ds) :
    Spells (s ++ t) (cs ++ ds) := by
  unfold Spells at hs ht ⊢
  rw [String.toList_append, hs, ht]

theorem Spells.escape {s : String} {cs : List Char} (h : Spells s cs) :
    Spells (escape s) (escapeChars cs) := by
  unfold Spells at h ⊢
  rw [Pattern.escape, String.toList_ofList, h, escapeChars]

theorem SpellsAll.toList_escape {ws : List String} {css : List (List Char)} (h : SpellsAll ws css) :
    (ws.map escape).map String.toList = css.map escapeChars := by
  induction h with
  | nil => rfl
  | cons cs _ ih =>
      have hfirst : (escape (String.ofList cs)).toList = escapeChars cs :=
        (spells_literal cs).escape
      rw [List.map_cons, List.map_cons, List.map_cons, hfirst, ih]

theorem spells_words {ws : List String} {css : List (List Char)} (h : SpellsAll ws css) :
    Spells (words ws) (wordChars css) := by
  refine ((spells_literal _).append ?_).append (spells_literal _)
  unfold Spells
  rw [String.toList_intercalate, h.toList_escape]
  rfl

/-! ### Readable patterns -/

/-- The text is a pattern. -/
class Reads (s : String) : Prop where
  exists_ofString : ∃ a, ofString s = .ok a

/-- The pattern that the text is, if it is one. -/
def read (s : String) : Pattern :=
  match ofString s with
  | .ok a => a
  | .error _ => .empty

theorem Reads.ofString_eq {s : String} (h : Reads s) : ofString s = .ok (read s) := by
  obtain ⟨a, ha⟩ := h.exists_ofString
  rw [read, ha]

theorem Spells.reads {s : String} {cs : List Char} (hs : Spells s cs)
    (h : (ofChars CharSet.roughRoom cs).isOk = true) : Reads s := by
  unfold Spells at hs
  cases hread : ofChars CharSet.roughRoom cs with
  | error e => simp [hread, Except.isOk, Except.toBool] at h
  | ok a => exact ⟨a, by rw [ofString, hs, ofChars_of_larger CharSet.room_le_roughRoom hread]⟩

theorem reads_literal {cs : List Char} (h : (ofChars CharSet.roughRoom cs).isOk = true) :
    Reads (String.ofList cs) :=
  (spells_literal cs).reads h

theorem reads_words {ws : List String} {css : List (List Char)} (hws : SpellsAll ws css)
    (h : (ofChars CharSet.roughRoom (wordChars css)).isOk = true) : Reads (words ws) :=
  (spells_words hws).reads h

end Pattern

/-! ### Trees -/

section

variable {P Q : Type} (f : P → Q)

mutual

/-- The tree with other patterns. -/
def RuleTree.map : RuleTree P → RuleTree Q
  | .mk name rules restToRoot => .mk name (mapRules rules) restToRoot

def mapRules : List (Rule P) → List (Rule Q)
  | [] => []
  | r :: rs => r.map :: mapRules rs

def Rule.map : Rule P → Rule Q
  | .mk label pattern inside => .mk label (f pattern) inside.map

def Inside.map : Inside P → Inside Q
  | .token => .token
  | .nested tree => .nested tree.map
  | .root => .root

end

end

/-- All patterns of the tree can be read. -/
class RuleTree.Readable (t : RuleSource) : Prop where
  reads : ∀ s ∈ t.patterns, Pattern.Reads s

open Pattern (Reads)

theorem patternsOf_append {P : Type} (rs rs' : List (Rule P)) :
    patternsOf (rs ++ rs') = patternsOf rs ++ patternsOf rs' := by
  induction rs with
  | nil => rfl
  | cons r rs ih => rw [List.cons_append, patternsOf, patternsOf, ih, List.append_assoc]

namespace RuleTree

theorem readable_named (name : String) : (named name).Readable := by
  constructor
  rintro s ⟨⟩

namespace Readable

variable {t inner : RuleSource} {label pattern : String}

theorem addRules (h : t.Readable) {rs : List (Rule String)} (hrs : ∀ s ∈ patternsOf rs, Reads s) :
    (t.addRules rs).Readable := by
  cases t with
  | mk name rules restToRoot =>
      constructor
      intro s hs
      rw [RuleTree.addRules, patterns, patternsOf_append] at hs
      exact (List.mem_append.mp hs).elim (h.reads s) (hrs s)

theorem rule (h : t.Readable) (hp : Reads pattern) : (t.rule label pattern).Readable :=
  h.addRules (by simpa [patternsOf, Rule.patterns, Inside.patterns] using hp)

theorem nest (h : t.Readable) (hp : Reads pattern) (hinner : inner.Readable) :
    (t.nest label pattern inner).Readable := by
  refine h.addRules ?_
  simp only [patternsOf, Rule.patterns, Inside.patterns, List.append_nil, List.forall_mem_cons]
  exact ⟨hp, hinner.reads⟩

theorem withRestToRoot (h : t.Readable) : t.withRestToRoot.Readable := by
  cases t with
  | mk name rules restToRoot => exact ⟨h.reads⟩

end Readable

end RuleTree

end Highlight
