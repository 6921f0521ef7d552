import Highlight.Engine
import Highlight.Proofs.Registry.Sound
import Highlight.Proofs.Rendering.Scratch

/-!
# The warm cache

The cache of an engine changes how much is tokenized, and never what comes out.  An entry is fresh
when its decorations are those of its text, placed at its origin, with the grammars that are known
now.  The entries of an engine are fresh at all times: a registered grammar stays, a move of an
entry is exact below the bound on positions, and an entry is made only from a tokenization with a
registered grammar.  So a pass gives the decorations from scratch, whatever the engine has seen
before.
-/

namespace Highlight

/-- Positions stay below this number: distances between them are signed words of 64 bits. -/
def positionBound : Nat := (maxPosition + 1) / 2

theorem distance_eq {p q : Nat} (hp : p < positionBound) (hq : q < positionBound) :
    distance p q = (q : Int) - p := by
  simp only [positionBound, maxPosition] at hp hq
  exact Int.bmod_eq_of_le (by simp only [maxPosition]; omega) (by simp only [maxPosition]; omega)

/-- A move is exact as long as the lengths of both ways are signed words. -/
theorem shiftPos_distance {p q i : Nat} (hp : p < positionBound) (hq : q < positionBound)
    (hi : i < positionBound) : shiftPos (p + i) (distance p q) = q + i := by
  rw [distance_eq hp hq, shiftPos]
  simp only [positionBound, maxPosition] at hp hq hi
  simp only [maxPosition]
  omega

theorem Token.shifted_at {t : Token} {p q length : Nat} (ht : t.Inside length)
    (hp : p + length < positionBound) (hq : q + length < positionBound) :
    (t.at p).shifted (distance p q) = t.at q := by
  obtain ⟨hlt, hle⟩ := ht
  have hstart : shiftPos (p + t.start) (distance p q) = q + t.start :=
    shiftPos_distance (by omega) (by omega) (by omega)
  have hstop : shiftPos (p + t.stop) (distance p q) = q + t.stop :=
    shiftPos_distance (by omega) (by omega) (by omega)
  simp [Token.at, Decoration.shifted, hstart, hstop]

section

variable {known known' : String → Option Grammar} {limits : Limits}

def Covered (known : String → Option Grammar) (language : Option String) : Prop :=
  ∃ tag g, language = some tag ∧ Language.isPlain tag = false ∧ known tag = some g

theorem Covered.mono {language : Option String} (h : Covered known language)
    (hle : ∀ tag g, known tag = some g → known' tag = some g) : Covered known' language := by
  obtain ⟨tag, g, rfl, hplain, hg⟩ := h
  exact ⟨tag, g, rfl, hplain, hle tag g hg⟩

/-- Tokens of a covered language stay as they are when more grammars become known. -/
theorem labelledTokens_of_covered {language : Option String} (h : Covered known language)
    (hle : ∀ tag g, known tag = some g → known' tag = some g) (text : String) :
    labelledTokens known' limits language text = labelledTokens known limits language text := by
  obtain ⟨tag, g, rfl, hplain, hg⟩ := h
  apply labelledTokens_congr
  rintro _ ⟨⟩ -
  rw [hg, hle tag g hg]

/-- What a fresh entry says is true now. -/
structure CacheEntry.Fresh (known : String → Option Grammar) (limits : Limits) (e : CacheEntry) :
    Prop where
  covered : Covered known e.language
  decorations_eq :
    e.decorations = (labelledTokens known limits e.language e.text).map (Token.at e.origin)
  bound : e.origin + e.text.length < positionBound

def TokenCache.Fresh (known : String → Option Grammar) (limits : Limits) (c : TokenCache) : Prop :=
  ∀ id e, c.entries.get? id = some e → e.Fresh known limits

theorem TokenCache.fresh_empty : TokenCache.Fresh known limits {} := by
  intro id e he
  simp [Table.get?] at he

theorem TokenCache.Fresh.mono {c : TokenCache} (h : c.Fresh known limits)
    (hle : ∀ tag g, known tag = some g → known' tag = some g) : c.Fresh known' limits := by
  intro id e he
  obtain ⟨hcov, hds, hb⟩ := h id e he
  exact ⟨hcov.mono hle, by rw [hds, labelledTokens_of_covered hcov hle], hb⟩

theorem CacheEntry.Fresh.movedTo {e : CacheEntry} (h : e.Fresh known limits) {start : Nat}
    (hs : start + e.text.length < positionBound) :
    (e.movedTo start).Fresh known limits ∧ (e.movedTo start).decorations =
      (labelledTokens known limits e.language e.text).map (Token.at start) := by
  unfold CacheEntry.movedTo
  split
  · rename_i ho
    exact ⟨h, ho ▸ h.decorations_eq⟩
  · have hmoved : e.decorations.map (·.shifted (distance e.origin start)) =
        (labelledTokens known limits e.language e.text).map (Token.at start) := by
      rw [h.decorations_eq, List.map_map]
      apply List.map_congr_left
      intro t ht
      exact Token.shifted_at ((labelledTokens_inside _ _).1 t ht) h.bound hs
    exact ⟨⟨h.covered, hmoved, hs⟩, hmoved⟩

def Region.scratch (known : String → Option Grammar) (limits : Limits) (r : Region) :
    List Decoration :=
  (labelledTokens known limits r.language r.text).map (Token.at r.start)

/-- The region lies where positions can be told apart. -/
def Region.Fits (r : Region) : Prop := r.start + r.text.length < positionBound

namespace TokenCache

theorem Fresh.insert {c : TokenCache} (h : c.Fresh known limits) {e : CacheEntry}
    (he : e.Fresh known limits) (id : NodeId) :
    TokenCache.Fresh known limits ⟨c.entries.insert id e⟩ :=
  Table.forall_insert h he id

theorem Fresh.get {c : TokenCache} (h : c.Fresh known limits) {r : Region} (hr : r.Fits) :
    (c.get r).2.Fresh known limits ∧
      ∀ ds, (c.get r).1 = some ds → ds = r.scratch known limits := by
  unfold TokenCache.get entry?
  cases he : c.entries.get? r.id with
  | none => simpa using h
  | some e =>
      cases hfit : e.fits r with
      | false => simpa [hfit] using h
      | true =>
          obtain ⟨htext, hlang⟩ : e.text = r.text ∧ e.language = r.language := by
            simpa [CacheEntry.fits] using hfit
          have hb : r.start + e.text.length < positionBound := htext ▸ hr
          obtain ⟨hfresh, hds⟩ := (h r.id e he).movedTo hb
          refine ⟨by simpa [hfit] using h.insert hfresh r.id, ?_⟩
          intro ds hd
          obtain rfl : (e.movedTo r.start).decorations = ds := by simpa [hfit] using hd
          rw [hds, htext, hlang, Region.scratch]

theorem Fresh.put {c : TokenCache} (h : c.Fresh known limits) {r : Region} (hr : r.Fits)
    (hcov : Covered known r.language) : (c.put r (r.scratch known limits)).Fresh known limits := by
  have he : CacheEntry.Fresh known limits
      ⟨r.language, r.text, r.start, r.scratch known limits⟩ := ⟨hcov, rfl, hr⟩
  exact h.insert he r.id

theorem Fresh.prune {c : TokenCache} (h : c.Fresh known limits) (live : List Region) :
    (c.prune live).Fresh known limits :=
  Table.forall_keep h _

end TokenCache

end

end Highlight
