import Highlight.Proofs.Pattern.WordLists

/-!
# Whole words

A word of a text is a run of word characters that goes on neither before nor behind.  Where the
words of a list have only word characters, the edge in front of a match says that no word character
precedes it, and the edge behind it that none follows.  So the matches are those words of the text
that are in the list.  No two words of a text start at one place, so it makes no difference which of
the alternatives is tried first.
-/

namespace Highlight

/-- The word characters from `p` to `q` are a whole word of the text. -/
structure WordRun (hay : Array Char) (p q : Nat) : Prop where
  lt : p < q
  inner : ∀ i, p ≤ i → i < q → ∃ c, hay[i]? = some c ∧ Text.isWord c = true
  before : ∀ i c, i + 1 = p → hay[i]? = some c → Text.isWord c = false
  behind : ∀ c, hay[q]? = some c → Text.isWord c = false

namespace WordRun

variable {hay : Array Char} {p q p' q' : Nat}

theorem stop_le (h : WordRun hay p q) : q ≤ hay.size := by
  have hlt := h.lt
  obtain ⟨c, hc, -⟩ := h.inner (q - 1) (by omega) (by omega)
  have hsize := (Array.getElem?_eq_some_iff.mp hc).1
  omega

theorem stop_le_stop (h : WordRun hay p q) (h' : WordRun hay p q') : q ≤ q' := by
  refine Nat.le_of_not_lt fun hlt => ?_
  obtain ⟨c, hc, hword⟩ := h.inner q' (Nat.le_of_lt h'.lt) hlt
  simp [h'.behind c hc] at hword

theorem stop_unique (h : WordRun hay p q) (h' : WordRun hay p q') : q = q' :=
  Nat.le_antisymm (h.stop_le_stop h') (h'.stop_le_stop h)

/-- No word starts inside another one. -/
theorem not_inside (h : WordRun hay p q) (hp : p < p') (hq : p' < q) : ¬ WordRun hay p' q' := by
  intro h'
  obtain ⟨c, hc, hword⟩ := h.inner (p' - 1) (by omega) (by omega)
  simp [h'.before (p' - 1) c (by omega) hc] at hword

end WordRun

namespace Look

variable {hay : Array Char} {p : Nat}

theorem wordBefore_iff : wordBefore false hay p = true ↔
    ∃ i c, i + 1 = p ∧ hay[i]? = some c ∧ Text.isWord c = true := by
  cases p with
  | zero => simp [wordBefore]
  | succ p => simp [wordBefore, Option.any_eq_true, isWordChar]

theorem wordAfter_iff : wordAfter false hay p = true ↔
    ∃ c, hay[p]? = some c ∧ Text.isWord c = true := by
  simp [wordAfter, Option.any_eq_true, isWordChar]

/-- Word characters are a whole word if and only if there is an edge on either side. -/
theorem edges_iff_wordRun {q : Nat} (hpq : p < q)
    (hinner : ∀ i, p ≤ i → i < q → ∃ c, hay[i]? = some c ∧ Text.isWord c = true) :
    (word false .edge).holds hay p = true ∧ (word false .edge).holds hay q = true ↔
      WordRun hay p q := by
  have hafter : wordAfter false hay p = true :=
    wordAfter_iff.mpr (hinner p (Nat.le_refl p) hpq)
  have hbefore : wordBefore false hay q = true := by
    obtain ⟨c, hc⟩ := hinner (q - 1) (by omega) (by omega)
    exact wordBefore_iff.mpr ⟨q - 1, c, by omega, hc⟩
  have hfront : (word false .edge).holds hay p = true ↔ ¬ wordBefore false hay p = true := by
    simp [holds, placed, hafter]
  have hback : (word false .edge).holds hay q = true ↔ ¬ wordAfter false hay q = true := by
    simp [holds, placed, hbefore]
  rw [hfront, hback, wordBefore_iff, wordAfter_iff]
  constructor
  · rintro ⟨hnot, hnot'⟩
    exact ⟨hpq, hinner, fun i c hi hc => by simpa using fun hw => hnot ⟨i, c, hi, hc, hw⟩,
      fun c hc => by simpa using fun hw => hnot' ⟨c, hc, hw⟩⟩
  · intro h
    refine ⟨?_, ?_⟩
    · rintro ⟨i, c, hi, hc, hw⟩
      simp [h.before i c hi hc] at hw
    · rintro ⟨c, hc, hw⟩
      simp [h.behind c hc] at hw

end Look

namespace Pattern

variable {hay : Array Char} {p q : Nat} {t u : Option Span} {w : List Char} {ws : List (List Char)}

/-- The characters that a text has at a place are those of the stretch from there on. -/
theorem hasAt_iff_extract (hw : w ≠ []) :
    HasAt hay w p ∧ q = p + w.length ↔ p < q ∧ q ≤ hay.size ∧ (hay.extract p q).toList = w := by
  constructor
  · rintro ⟨hat, rfl⟩
    have hlen : 0 < w.length := List.length_pos_iff.mpr hw
    have hend : p + (w.length - 1) < hay.size := by
      have hlast := hat (w.length - 1) _ (List.getElem?_eq_getElem (by omega))
      exact (Array.getElem?_eq_some_iff.mp hlast).1
    refine ⟨by omega, by omega, List.ext_getElem? fun i => ?_⟩
    rw [Array.getElem?_toList, Array.getElem?_extract]
    rcases Nat.lt_or_ge i w.length with hi | hi
    · rw [if_pos (by omega), List.getElem?_eq_getElem hi]
      exact hat i _ (List.getElem?_eq_getElem hi)
    · rw [if_neg (by omega), List.getElem?_eq_none hi]
  · rintro ⟨hpq, hq, rfl⟩
    refine ⟨fun i c hc => ?_, ?_⟩
    · rw [Array.getElem?_toList, Array.getElem?_extract] at hc
      split at hc
      · exact hc
      · simp at hc
    · rw [Array.length_toList, Array.size_extract]
      omega

theorem HasAt.inner (h : HasAt hay w p) (hw : ∀ c ∈ w, Text.isWord c = true) :
    ∀ i, p ≤ i → i < p + w.length → ∃ c, hay[i]? = some c ∧ Text.isWord c = true := by
  intro i hi hlt
  have hwi : i - p < w.length := by omega
  have hat := h (i - p) _ (List.getElem?_eq_getElem hwi)
  rw [Nat.add_sub_cancel' hi] at hat
  exact ⟨_, hat, hw _ (List.getElem_mem hwi)⟩

theorem way_chars_iff : Way hay (concat (chars w)) p t q u ↔
    (HasAt hay w p ∧ q = p + w.length) ∧ u = t := by
  induction w generalizing p with
  | nil =>
      constructor
      · intro h
        cases h
        exact ⟨⟨hasAt_nil, rfl⟩, rfl⟩
      · rintro ⟨⟨-, rfl⟩, rfl⟩
        exact .empty
  | cons c w ih =>
      rw [hasAt_cons_iff]
      cases w with
      | nil =>
          have hone : concat (chars [c]) = char (.single c) := rfl
          rw [hone, way_single_iff]
          simp [hasAt_nil, and_assoc]
      | cons d w =>
          have hmore : chars (c :: d :: w) = char (.single c) :: chars (d :: w) := rfl
          rw [hmore, concat_cons (by simp [chars]), List.length_cons]
          constructor
          · intro h
            cases h with
            | seq hfirst hrest =>
                obtain ⟨hc, rfl, rfl⟩ := way_single_iff.mp hfirst
                obtain ⟨⟨hat, rfl⟩, rfl⟩ := ih.mp hrest
                exact ⟨⟨⟨hc, hat⟩, by omega⟩, rfl⟩
          · rintro ⟨⟨⟨hc, hat⟩, rfl⟩, rfl⟩
            exact .seq (way_single_iff.mpr ⟨hc, rfl, rfl⟩) (ih.mpr ⟨⟨hat, by omega⟩, rfl⟩)

theorem way_choice_iff {as : List Pattern} (has : as ≠ []) :
    Way hay (choice as) p t q u ↔ ∃ a ∈ as, Way hay a p t q u := by
  induction as with
  | nil => exact absurd rfl has
  | cons a as ih =>
      cases as with
      | nil => simp [choice]
      | cons b bs =>
          have hbs : b :: bs ≠ [] := List.cons_ne_nil b bs
          rw [choice_cons hbs, List.exists_mem_cons_iff, ← ih hbs]
          constructor
          · intro h
            cases h with
            | left h => exact Or.inl h
            | right h => exact Or.inr h
          · rintro (h | h)
            · exact .left h
            · exact .right h

/-- A way of a list of words takes up one of them, between two word edges. -/
theorem way_wholeWord_iff (hws : ws ≠ []) : Way hay (wholeWord ws) p none q u ↔
    ((Look.word false .edge).holds hay p = true ∧ (Look.word false .edge).holds hay q = true) ∧
      (∃ w ∈ ws, HasAt hay w p ∧ q = p + w.length) ∧ u = none := by
  have hany : ∀ {t u : Option Span}, Way hay (anyOf ws) p t q u ↔
      (∃ w ∈ ws, HasAt hay w p ∧ q = p + w.length) ∧ u = t := by
    intro t u
    rw [anyOf, way_choice_iff (by simpa using hws)]
    simp only [List.mem_map, exists_exists_and_eq_and, way_chars_iff]
    constructor
    · rintro ⟨w, hw, hat, htoken⟩
      exact ⟨⟨w, hw, hat⟩, htoken⟩
    · rintro ⟨⟨w, hw, hat⟩, htoken⟩
      exact ⟨w, hw, hat, htoken⟩
  constructor
  · intro h
    cases h with
    | seq hfront hrest =>
        cases hfront with
        | look hfront =>
            cases hrest with
            | seq hwords hback =>
                cases hback with
                | look hback =>
                    obtain ⟨hword, htoken⟩ := hany.mp hwords
                    exact ⟨⟨hfront, hback⟩, hword, htoken⟩
  · rintro ⟨⟨hfront, hback⟩, hwords, rfl⟩
    exact .seq (.look hfront) (.seq (hany.mpr ⟨hwords, rfl⟩) (.look hback))

theorem hasToken_wholeWord (ws : List (List Char)) : (wholeWord ws).hasToken = false := by
  simp [wholeWord, anyOf, hasToken, hasToken_choice, hasToken_concat, chars]

/-- None of the words is empty, and all have only word characters. -/
def Wordly (ws : List (List Char)) : Prop := ∀ w ∈ ws, w ≠ [] ∧ ∀ c ∈ w, Text.isWord c = true

/-- A way of a list of words leads from end to end of a word of the text that is in the list. -/
theorem way_wholeWord_iff_wordRun (hws : ws ≠ []) (hwordly : Wordly ws) :
    Way hay (wholeWord ws) p none q u ↔
      (WordRun hay p q ∧ (hay.extract p q).toList ∈ ws) ∧ u = none := by
  rw [way_wholeWord_iff hws]
  constructor
  · rintro ⟨hedges, ⟨w, hw, hat⟩, htoken⟩
    obtain ⟨hne, hchars⟩ := hwordly w hw
    obtain ⟨hpq, -, hspan⟩ := (hasAt_iff_extract hne).mp hat
    have hinner : ∀ i, p ≤ i → i < q → ∃ c, hay[i]? = some c ∧ Text.isWord c = true := by
      obtain ⟨hat, rfl⟩ := hat
      exact hat.inner hchars
    exact ⟨⟨(Look.edges_iff_wordRun hpq hinner).mp hedges, hspan ▸ hw⟩, htoken⟩
  · rintro ⟨⟨hrun, hw⟩, htoken⟩
    have hedges := (Look.edges_iff_wordRun hrun.lt hrun.inner).mpr hrun
    have hat := (hasAt_iff_extract (hwordly _ hw).1).mpr ⟨hrun.lt, hrun.stop_le, rfl⟩
    exact ⟨hedges, ⟨_, hw, hat⟩, htoken⟩

/-- The tokens of a list of words are the words of the text that are in the list. -/
theorem tokenAt_wholeWord_iff (hwordly : Wordly ws) {f : Found} :
    (wholeWord ws).tokenAt hay p = some f ↔
      f = ⟨p, p, f.stop⟩ ∧ WordRun hay p f.stop ∧ (hay.extract p f.stop).toList ∈ ws := by
  constructor
  · intro h
    obtain ⟨hf, hlt, hway⟩ := way_of_tokenAt (hasToken_wholeWord ws) h
    have hws : ws ≠ [] := by
      rintro rfl
      cases hway with
      | seq hfront hrest =>
          cases hfront
          cases hrest with
          | seq hnone hback =>
              cases hnone
              cases hback
              exact Nat.lt_irrefl _ hlt
    obtain ⟨hrun, -⟩ := (way_wholeWord_iff_wordRun hws hwordly).mp hway
    exact ⟨hf, hrun⟩
  · rintro ⟨hf, hrun, hw⟩
    have hiff : ∀ {q u}, Way hay (wholeWord ws) p none q u ↔
        (WordRun hay p q ∧ (hay.extract p q).toList ∈ ws) ∧ u = none :=
      way_wholeWord_iff_wordRun (List.ne_nil_of_mem hw) hwordly
    obtain ⟨h, hm⟩ := exists_matchAt (plain_wholeWord ws) (hiff.mpr ⟨⟨hrun, hw⟩, rfl⟩)
    obtain ⟨rfl, hway⟩ := matchAt_eq_some hm
    obtain ⟨⟨hrun', -⟩, htoken⟩ := hiff.mp hway
    refine tokenAt_eq_some_iff.mpr ⟨h, hm, ?_, ?_⟩
    · rw [token_eq_whole htoken]
      exact hrun'.lt
    · rw [token_eq_whole htoken, hf, hrun.stop_unique hrun']

end Pattern

end Highlight
