import Highlight.Proofs.Pattern.Leftmost
import Mathlib.Data.List.Basic

/-!
# Brackets

A match of `bracket opening` starts with the opening and ends with a closing brace, and between them
stands no brace.  In such a text, `edges opening` finds the opening first and the closing brace
next.  A pattern that asks for characters that a text lacks finds nothing at all.
-/

namespace Highlight

/-- The text has none of the characters. -/
def Lacks (cs : List Char) (hay : Array Char) : Prop :=
  ∀ (i : Nat) (c : Char), hay[i]? = some c → c ∉ cs

theorem lacks_nil (hay : Array Char) : Lacks [] hay := by simp [Lacks]

theorem Lacks.extract {cs : List Char} {hay : Array Char} (h : Lacks cs hay) (p q : Nat) :
    Lacks cs (hay.extract p q) := by
  intro i c hc
  rw [Array.getElem?_extract] at hc
  split at hc
  · exact h _ c hc
  · simp at hc

theorem CharSet.mem_single_iff {c d : Char} : (single c).mem d = true ↔ d = c := by
  simp only [single, mem, Bool.and_eq_true, decide_eq_true_eq]
  constructor
  · rintro ⟨hle, hge⟩
    exact Char.le_antisymm hge hle
  · rintro rfl
    exact ⟨Char.le_refl _, Char.le_refl _⟩

namespace Pattern

variable {a : Pattern} {hay : Array Char} {p q : Nat} {t u : Option Span}

theorem exists_hit_of_findToken {f : Found} (h : a.findToken hay p = some f) :
    ∃ hit : Hit, Way hay a hit.start none hit.stop hit.token? ∧
      f = ⟨hit.start, hit.token.start, hit.token.stop⟩ := by
  obtain ⟨-, -, hat, -⟩ := firstToken_of_findToken h
  obtain ⟨hit, hm, -, hf⟩ := tokenAt_eq_some_iff.mp hat
  obtain ⟨hstart, hway⟩ := matchAt_eq_some hm
  exact ⟨hit, hstart ▸ hway, hf⟩

theorem way_of_findToken (ha : a.hasToken = false) {f : Found} (h : a.findToken hay p = some f) :
    Way hay a f.start none f.stop none := by
  obtain ⟨-, -, hat, -⟩ := firstToken_of_findToken h
  obtain ⟨-, -, hway⟩ := way_of_tokenAt ha hat
  rwa [start_of_tokenAt ha hat]

/-! ### Patterns that ask for characters -/

/-- Every match of the pattern takes up one of the characters. -/
def asks (cs : List Char) (a : Pattern) : Bool :=
  a.needs.any fun s => cs.any fun c => s == .single c

theorem findToken_eq_none_of_asks {cs : List Char} (ha : a.asks cs = true) (h : Lacks cs hay)
    (p : Nat) : a.findToken hay p = none := by
  obtain ⟨s, hs, hany⟩ := List.any_eq_true.mp ha
  obtain ⟨c, hc, heq⟩ := List.any_eq_true.mp hany
  obtain rfl : s = .single c := by simpa using heq
  cases hfind : a.findToken hay p with
  | none => rfl
  | some f =>
      obtain ⟨hit, hway, -⟩ := exists_hit_of_findToken hfind
      obtain ⟨i, d, -, -, hd, hmem⟩ := hway.meets _ hs
      obtain rfl := CharSet.mem_single_iff.mp hmem
      exact absurd hc (h i d hd)

/-! ### Characters one after the other -/

def chars (cs : List Char) : List Pattern := cs.map fun c => char (.single c)

theorem way_single_iff {c : Char} : Way hay (char (.single c)) p t q u ↔
    hay[p]? = some c ∧ q = p + 1 ∧ u = t := by
  constructor
  · intro h
    cases h with
    | char hc hs =>
        obtain rfl := CharSet.mem_single_iff.mp hs
        exact ⟨hc, rfl, rfl⟩
  · rintro ⟨hc, rfl, rfl⟩
    exact .char hc (CharSet.mem_single_iff.mpr rfl)

theorem concat_cons {as : List Pattern} (h : as ≠ []) : concat (a :: as) = seq a (concat as) := by
  cases as with
  | nil => exact absurd rfl h
  | cons b bs => rfl

theorem choice_cons {as : List Pattern} (h : as ≠ []) : choice (a :: as) = alt a (choice as) := by
  cases as with
  | nil => exact absurd rfl h
  | cons b bs => rfl

/-- The text has the characters from the place on. -/
def HasAt (hay : Array Char) (cs : List Char) (p : Nat) : Prop :=
  ∀ (i : Nat) (c : Char), cs[i]? = some c → hay[p + i]? = some c

theorem hasAt_nil : HasAt hay [] p := by simp [HasAt]

theorem hasAt_cons_iff {c : Char} {cs : List Char} :
    HasAt hay (c :: cs) p ↔ hay[p]? = some c ∧ HasAt hay cs (p + 1) := by
  constructor
  · intro h
    refine ⟨h 0 c rfl, fun i d hd => ?_⟩
    rw [Nat.add_assoc, Nat.add_comm 1]
    exact h (i + 1) d (by simpa using hd)
  · rintro ⟨hc, hcs⟩ i d hd
    cases i with
    | zero =>
        obtain rfl : c = d := by simpa using hd
        exact hc
    | succ i =>
        rw [Nat.add_comm i, ← Nat.add_assoc]
        exact hcs i d (by simpa using hd)

theorem way_chars_append {cs : List Char} {bs : List Pattern} (hbs : bs ≠ [])
    (h : Way hay (concat (chars cs ++ bs)) p t q u) :
    HasAt hay cs p ∧ Way hay (concat bs) (p + cs.length) t q u := by
  induction cs generalizing p with
  | nil => exact ⟨hasAt_nil, h⟩
  | cons c cs ih =>
      have hrest : chars cs ++ bs ≠ [] := by simp [hbs]
      have hsplit : chars (c :: cs) ++ bs = char (.single c) :: (chars cs ++ bs) := rfl
      rw [hsplit, concat_cons hrest] at h
      cases h with
      | seq hfirst hmore =>
          obtain ⟨hc, rfl, rfl⟩ := way_single_iff.mp hfirst
          obtain ⟨hcs, hway⟩ := ih hmore
          refine ⟨hasAt_cons_iff.mpr ⟨hc, hcs⟩, ?_⟩
          rwa [List.length_cons, Nat.add_comm cs.length, ← Nat.add_assoc]

theorem run_chars {cs : List Char} (h : HasAt hay cs p) (k : Rest) (t : Option Span)
    (tried : Tried) : (concat (chars cs)).run hay k p t tried = k (p + cs.length) t tried := by
  induction cs generalizing p with
  | nil => rfl
  | cons c cs ih =>
      obtain ⟨hc, hcs⟩ := hasAt_cons_iff.mp h
      have hfirst : ∀ k : Rest, (char (.single c)).run hay k p t tried = k (p + 1) t tried := by
        intro k
        simp [run, hc, CharSet.mem_single_iff]
      cases cs with
      | nil => exact hfirst k
      | cons d cs =>
          rw [chars, List.map_cons, concat_cons (by simp)]
          refine (hfirst _).trans ((ih hcs).trans ?_)
          simp only [List.length_cons]
          congr 1
          omega

/-! ### Brackets and their edges -/

/-- The opening, then no braces, then a closing brace. -/
def bracket (opening : List Char) : Pattern :=
  concat (chars opening ++
    [alt (stretch true 0 (.compl (.union (.single '{') (.single '}')))) empty, char (.single '}')])

/-- The opening at the start of the text, or a closing brace at its end. -/
def edges (opening : List Char) : Pattern :=
  alt (concat (look .textStart :: chars opening)) (seq (char (.single '}')) (look .textEnd))

theorem hasToken_concat (as : List Pattern) : (concat as).hasToken = as.any hasToken := by
  induction as with
  | nil => rfl
  | cons a as ih =>
      cases as with
      | nil => simp [concat]
      | cons b bs =>
          rw [concat_cons (List.cons_ne_nil b bs), hasToken, ih]
          rfl

theorem hasToken_choice (as : List Pattern) : (choice as).hasToken = as.any hasToken := by
  induction as with
  | nil => rfl
  | cons a as ih =>
      cases as with
      | nil => simp [choice]
      | cons b bs =>
          rw [choice_cons (List.cons_ne_nil b bs), hasToken, ih]
          rfl

theorem hasToken_bracket (opening : List Char) : (bracket opening).hasToken = false := by
  simp [bracket, hasToken_concat, chars, hasToken]

theorem hasToken_edges (opening : List Char) : (edges opening).hasToken = false := by
  simp [edges, hasToken_concat, chars, hasToken]

end Pattern

/-- The text of a bracket. -/
structure Bracketed (opening : List Char) (hay : Array Char) : Prop where
  size : opening.length < hay.size
  starts : Pattern.HasAt hay opening 0
  inner : ∀ i c, opening.length ≤ i → i + 1 < hay.size → hay[i]? = some c → c ∉ ['{', '}']
  closed : hay[hay.size - 1]? = some '}'

namespace Pattern

variable {opening : List Char} {hay : Array Char} {p q : Nat} {t u : Option Span}

theorem Way.bracketed (h : Way hay (bracket opening) p t q u) (hq : q ≤ hay.size) :
    Bracketed opening (hay.extract p q) := by
  obtain ⟨hstarts, hrest⟩ := way_chars_append (by simp) h
  -- `m` is the place of the closing brace.
  obtain ⟨m, hpm, hinner, hclosed, rfl⟩ : ∃ m, p + opening.length ≤ m ∧
      (∀ i, p + opening.length ≤ i → i < m → ∃ c, hay[i]? = some c ∧ c ∉ ['{', '}']) ∧
      hay[m]? = some '}' ∧ q = m + 1 := by
    cases hrest with
    | seq hstretch hclose =>
        cases hclose with
        | char hc hs =>
            obtain rfl := CharSet.mem_single_iff.mp hs
            refine ⟨_, hstretch.le, fun i hi hlt => ?_, hc, rfl⟩
            cases hstretch with
            | left hstretch =>
                cases hstretch with
                | stretch _ hs =>
                    obtain ⟨c, hc, hmem⟩ := hs i hi hlt
                    refine ⟨c, hc, ?_⟩
                    simpa [CharSet.mem, ← CharSet.mem_single_iff] using hmem
            | right hempty =>
                cases hempty
                omega
  have hsize : (hay.extract p (m + 1)).size = m + 1 - p := by
    rw [Array.size_extract]
    omega
  have hget : ∀ i, p + i < m + 1 → (hay.extract p (m + 1))[i]? = hay[p + i]? := by
    intro i hi
    rw [Array.getElem?_extract, if_pos (by omega)]
  refine ⟨by omega, fun i c hc => ?_, fun i c hi hlt hc => ?_, ?_⟩
  · have hlt : i < opening.length := (List.getElem?_eq_some_iff.mp hc).1
    rw [Nat.zero_add, hget i (by omega)]
    exact hstarts i c hc
  · rw [hget i (by omega)] at hc
    obtain ⟨d, hd, hnot⟩ := hinner (p + i) (by omega) (by omega)
    obtain rfl : d = c := by simpa [hd] using hc
    exact hnot
  · rw [hsize, hget _ (by omega)]
    have hlast : p + (m + 1 - p - 1) = m := by omega
    rwa [hlast]

theorem tokenAt_edges_zero (h : Bracketed opening hay) (hopening : opening ≠ []) :
    (edges opening).tokenAt hay 0 = some ⟨0, 0, opening.length⟩ := by
  have hpos : 0 < opening.length := List.length_pos_iff.mpr hopening
  have hmatch : (edges opening).matchAt hay 0 = some ⟨0, opening.length, none⟩ := by
    have hne : chars opening ≠ [] := by simpa [chars] using hopening
    simp only [matchAt, edges, concat_cons hne, run, Look.holds, beq_self_eq_true, if_true,
      run_chars h.starts, Nat.zero_add]
  simp [tokenAt, hmatch, Hit.token, hpos]

theorem tokenAt_edges_last (h : Bracketed opening hay) (hopening : opening ≠ []) :
    (edges opening).tokenAt hay (hay.size - 1) = some ⟨hay.size - 1, hay.size - 1, hay.size⟩ := by
  have hpos : 0 < opening.length := List.length_pos_iff.mpr hopening
  have hsize := h.size
  have hmatch : (edges opening).matchAt hay (hay.size - 1) =
      some ⟨hay.size - 1, hay.size, none⟩ := by
    have hne : chars opening ≠ [] := by simpa [chars] using hopening
    have hstart : (hay.size - 1 == 0) = false := by simp; omega
    have hstop : hay.size - 1 + 1 = hay.size := by omega
    simp [matchAt, edges, concat_cons hne, run, Look.holds, hstart, h.closed, hstop,
      CharSet.mem_single_iff]
  have hlt : hay.size - 1 < hay.size := by omega
  simp [tokenAt, hmatch, Hit.token, hlt]

theorem findToken_edges_zero (h : Bracketed opening hay) (hopening : opening ≠ []) :
    (edges opening).findToken hay 0 = some ⟨0, 0, opening.length⟩ := by
  have hat := tokenAt_edges_zero h hopening
  obtain ⟨g, hg, hle⟩ := exists_findToken hat (Nat.zero_le _) (Nat.zero_le _)
  obtain ⟨-, -, hat', -⟩ := firstToken_of_findToken hg
  rw [Nat.le_zero.mp hle, hat] at hat'
  rw [hg, ← hat']

theorem findToken_edges_ne_none (h : Bracketed opening hay) (hopening : opening ≠ [])
    (hp : p < hay.size) : (edges opening).findToken hay p ≠ none := by
  have hlast : p ≤ hay.size - 1 := by omega
  obtain ⟨g, hg, -⟩ := exists_findToken (tokenAt_edges_last h hopening) hlast (Nat.sub_le _ _)
  simp [hg]

end Pattern

end Highlight
