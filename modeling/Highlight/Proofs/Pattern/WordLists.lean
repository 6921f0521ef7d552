import Highlight.Proofs.Grammar.Readable
import Highlight.Proofs.Pattern.Brackets
import Highlight.Proofs.Pattern.Plain

/-!
# Lists of words

The pattern of a list of words reads as a choice between the words, each character for itself, with
a word edge on either side.  The escapes in the written form stand for the characters behind them,
so this holds for words of any characters.
-/

namespace Highlight.Pattern

/-- Any one of the words. -/
def anyOf (ws : List (List Char)) : Pattern := choice (ws.map fun w => concat (chars w))

/-- Any one of the words, between two word edges. -/
def wholeWord (ws : List (List Char)) : Pattern :=
  seq (look (.word false .edge)) (seq (anyOf ws) (look (.word false .edge)))

/-! ### Reading characters -/

section

variable {roomOf : CharSet → Nat} {r : Reading} {c : Char} {cs : List Char} {fuel : Nat}

/-- The part that a literal character reads as. -/
def literalPart (roomOf : CharSet → Nat) (c : Char) : Part :=
  ⟨char (.single c), 0, roomOf (.single c)⟩

namespace Reading

/-- The reading with literal characters added. -/
def spell (r : Reading) (roomOf : CharSet → Nat) (w : List Char) : Reading :=
  { r with level := { r.level with
      items := (w.map fun c => some (literalPart roomOf c)).reverse ++ r.level.items } }

theorem spell_nil : r.spell roomOf [] = r := rfl

theorem spell_cons (w : List Char) :
    r.spell roomOf (c :: w) = (r.push (literalPart roomOf c)).spell roomOf w := by
  simp [spell, push, Level.push]

theorem readAll_nil : readAll roomOf fuel r [] = .ok r := by
  cases fuel with
  | zero => rfl
  | succ fuel => cases hverbose : r.flags.verbose <;> simp [readAll, skipIf, skipLayout, hverbose]

theorem readAll_cons (hr : r.flags = {}) : readAll roomOf (fuel + 1) r (c :: cs) =
    (r.step roomOf c cs).bind fun next => readAll roomOf fuel next.1 next.2 := by
  rw [readAll, hr]
  rfl

theorem pushEscape_literal (hr : r.flags = {}) :
    r.pushEscape roomOf (.literal c) = r.push (literalPart roomOf c) := by
  rw [pushEscape, hr]
  rfl

theorem step_literal (hr : r.flags = {}) (hc : isMeta c = false) :
    r.step roomOf c cs = .ok (r.push (literalPart roomOf c), cs) := by
  rw [← pushEscape_literal hr]
  unfold step
  split <;> first | rfl | simp [isMeta] at hc

theorem readEscape_meta (hc : isMeta c = true) :
    readEscape {} (c :: cs) = .ok (.literal c, cs) := by
  simp only [isMeta, List.contains_eq_mem, List.mem_cons, List.not_mem_nil, or_false,
    decide_eq_true_eq] at hc
  rcases hc with rfl | rfl | rfl | rfl | rfl | rfl | rfl | rfl | rfl | rfl | rfl | rfl | rfl | rfl |
    rfl | rfl | rfl | rfl <;> rfl

theorem step_escaped (hr : r.flags = {}) (hc : isMeta c = true) :
    r.step roomOf '\\' (c :: cs) = .ok (r.push (literalPart roomOf c), cs) := by
  rw [← pushEscape_literal hr, step, hr, readEscape_meta hc]
  rfl

/-- An escaped word reads as its characters. -/
theorem readAll_escapeChars (hr : r.flags = {}) (w : List Char) :
    readAll roomOf (w.length + fuel) r (escapeChars w ++ cs) =
      readAll roomOf fuel (r.spell roomOf w) cs := by
  induction w generalizing r with
  | nil => rw [List.length_nil, Nat.zero_add, spell_nil]; rfl
  | cons c w ih =>
      have hfuel : (c :: w).length + fuel = w.length + fuel + 1 := by
        rw [List.length_cons]
        omega
      have hrest := ih (r := r.push (literalPart roomOf c)) hr
      rw [hfuel, spell_cons, ← hrest, escapeChars, List.flatMap_cons, ← escapeChars]
      cases hc : isMeta c with
      | true =>
          simp only [if_true, List.cons_append, List.nil_append, readAll_cons hr,
            step_escaped hr hc]
          rfl
      | false =>
          simp only [Bool.false_eq_true, if_false, List.cons_append, List.nil_append,
            readAll_cons hr, step_literal hr hc]
          rfl

/-- The reading with a word added as a further alternative. -/
def alternative (roomOf : CharSet → Nat) (r : Reading) (w : List Char) : Reading :=
  { r with level := r.level.split }.spell roomOf w

theorem step_bar : r.step roomOf '|' cs = .ok ({ r with level := r.level.split }, cs) := rfl

theorem length_le_length_escapeChars (w : List Char) : w.length ≤ (escapeChars w).length := by
  induction w with
  | nil => exact Nat.le_refl _
  | cons c w ih =>
      rw [escapeChars, List.flatMap_cons, ← escapeChars, List.length_append, List.length_cons]
      split <;> simp <;> omega

/-- Further words, each behind a bar, read as alternatives, in at most as many steps as there are
characters. -/
theorem readAll_bars (roomOf : CharSet → Nat) (cs : List Char) {r : Reading} (hr : r.flags = {})
    (ws : List (List Char)) :
    ∃ n ≤ (ws.flatMap fun w => '|' :: escapeChars w).length, ∀ fuel,
      readAll roomOf (n + fuel) r ((ws.flatMap fun w => '|' :: escapeChars w) ++ cs) =
        readAll roomOf fuel (ws.foldl (alternative roomOf) r) cs := by
  induction ws generalizing r with
  | nil => exact ⟨0, Nat.zero_le _, fun fuel => by rw [Nat.zero_add]; rfl⟩
  | cons w ws ih =>
      obtain ⟨n, hn, hread⟩ := ih (r := r.alternative roomOf w) hr
      have hlength := length_le_length_escapeChars w
      refine ⟨w.length + n + 1, ?_, fun fuel => ?_⟩
      · rw [List.flatMap_cons, List.length_append, List.length_cons]
        omega
      · have hfuel : w.length + n + 1 + fuel = w.length + (n + fuel) + 1 := by omega
        rw [hfuel, List.flatMap_cons, List.cons_append, List.cons_append, List.append_assoc,
          readAll_cons hr, step_bar, List.foldl_cons, ← hread]
        exact readAll_escapeChars (r := { r with level := r.level.split }) hr w

theorem foldl_alternative_frame (roomOf : CharSet → Nat) (r : Reading) (ws : List (List Char)) :
    (ws.foldl (alternative roomOf) r).flags = r.flags ∧
      (ws.foldl (alternative roomOf) r).outer = r.outer ∧
      (ws.foldl (alternative roomOf) r).level.kind = r.level.kind ∧
      (ws.foldl (alternative roomOf) r).level.flagsAfter = r.level.flagsAfter := by
  induction ws generalizing r with
  | nil => exact ⟨rfl, rfl, rfl, rfl⟩
  | cons w ws ih => exact ih (r.alternative roomOf w)

end Reading

/-- The alternatives of a level, the current one included. -/
def Level.parts (l : Level) : List Part := (Part.concat l.items.reverse :: l.branches).reverse

/-- The part that a word reads as. -/
def wordPart (roomOf : CharSet → Nat) (w : List Char) : Part :=
  Part.concat (w.map fun c => some (literalPart roomOf c))

theorem parts_foldl_alternative (r : Reading) (ws : List (List Char)) :
    (ws.foldl (Reading.alternative roomOf) r).level.parts =
      r.level.parts ++ ws.map (wordPart roomOf) := by
  induction ws generalizing r with
  | nil => simp
  | cons w ws ih =>
      have hnext : (r.alternative roomOf w).level.parts = r.level.parts ++ [wordPart roomOf w] := by
        simp [Reading.alternative, Reading.spell, Level.parts, Level.split, wordPart]
      rw [List.foldl_cons, ih, hnext, List.append_assoc, List.map_cons, List.singleton_append]

theorem pattern_choice (parts : List Part) :
    (Part.choice roomOf parts).pattern = choice (parts.map (·.pattern)) := by
  match parts with
  | [] => rfl
  | [_] => rfl
  | _ :: _ :: _ => rfl

theorem pattern_wordPart (w : List Char) : (wordPart roomOf w).pattern = concat (chars w) := by
  simp [wordPart, Part.concat, chars, literalPart, List.filterMap_map, Function.comp_def]

theorem intercalate_cons (bar : List Char) (w : List Char) (ws : List (List Char)) :
    bar.intercalate (w :: ws) = w ++ ws.flatMap (bar ++ ·) := by
  induction ws generalizing w with
  | nil => simp
  | cons v ws ih =>
      rw [List.flatMap_cons, ← List.append_assoc, List.append_assoc, List.append_assoc, ← ih]
      rfl

/-- Written words with bars between them read as the choice between them. -/
theorem exists_readAll_anyOf (roomOf : CharSet → Nat) {r : Reading} (hr : r.flags = {})
    (hbranches : r.level.branches = []) (hitems : r.level.items = []) (ws : List (List Char))
    (cs : List Char) :
    ∃ r' : Reading, (r'.flags = {} ∧ r'.outer = r.outer ∧ r'.level.kind = r.level.kind ∧
        r'.level.flagsAfter = r.level.flagsAfter) ∧
      (r'.level.content roomOf).pattern = anyOf ws ∧
      ∃ n ≤ (['|'].intercalate (ws.map escapeChars)).length, ∀ fuel,
        Reading.readAll roomOf (n + fuel) r (['|'].intercalate (ws.map escapeChars) ++ cs) =
          Reading.readAll roomOf fuel r' cs := by
  cases ws with
  | nil =>
      refine ⟨r, ⟨hr, rfl, rfl, rfl⟩, ?_, 0, Nat.zero_le _, fun fuel => ?_⟩
      · rw [Level.content, hbranches, hitems]
        rfl
      · rw [Nat.zero_add]
        rfl
  | cons w ws =>
      obtain ⟨n, hn, hread⟩ := Reading.readAll_bars roomOf cs (r := r.spell roomOf w) hr ws
      have hchars : ['|'].intercalate ((w :: ws).map escapeChars) =
          escapeChars w ++ ws.flatMap fun w => '|' :: escapeChars w := by
        rw [List.map_cons, intercalate_cons, List.flatMap_map]
        rfl
      have hlength := Reading.length_le_length_escapeChars w
      obtain ⟨hflags, hframe⟩ := Reading.foldl_alternative_frame roomOf (r.spell roomOf w) ws
      refine ⟨ws.foldl (Reading.alternative roomOf) (r.spell roomOf w), ⟨hflags.trans hr, hframe⟩,
        ?_, w.length + n, ?_, fun fuel => ?_⟩
      · have hparts : (r.spell roomOf w).level.parts = [wordPart roomOf w] := by
          simp [Level.parts, Reading.spell, hbranches, hitems, wordPart]
        rw [Level.content, ← Level.parts, pattern_choice, parts_foldl_alternative, hparts, anyOf]
        simp [pattern_wordPart, Function.comp_def]
      · rw [hchars, List.length_append]
        omega
      · rw [hchars, List.append_assoc, Nat.add_assoc, Reading.readAll_escapeChars hr, hread]

/-- A word edge. -/
def edgePart : Part := { pattern := look (.word false .edge) }

theorem step_edge {r : Reading} (hr : r.flags = {}) (hcs : cs.head? ≠ some '{') :
    r.step roomOf '\\' ('b' :: cs) = .ok (r.push edgePart, cs) := by
  have hedge : readWordEdge {} cs = .ok (.look (.word false .edge), cs) := by
    cases cs with
    | nil => rfl
    | cons c cs =>
        unfold readWordEdge
        split <;> simp_all
  have hread : readEscape {} ('b' :: cs) = readWordEdge {} cs := rfl
  rw [Reading.step, hr, hread, hedge]
  rfl

theorem step_group {r : Reading} (hr : r.flags = {}) :
    r.step roomOf '(' ('?' :: ':' :: cs) = .ok (r.openGroup .plain {}, cs) := by
  rw [Reading.step, Reading.readGroup, hr]
  rfl

theorem step_close (roomOf : CharSet → Nat) (cs : List Char) {r : Reading} {o : Level}
    {outer : List Level} (hr : r.outer = o :: outer) :
    r.step roomOf ')' cs = .ok ({ r with
      flags := r.level.flagsAfter
      level := o.push (r.level.close roomOf)
      outer := outer }, cs) := by
  rw [Reading.step, Reading.closeGroup, hr]
  rfl

/-- The written form of a list of words reads as a choice between the words, with a word edge on
either side. -/
theorem exists_readAll_wholeWord (roomOf : CharSet → Nat) (ws : List (List Char)) :
    ∃ r : Reading, Reading.readAll roomOf (wordChars ws).length {} (wordChars ws) = .ok r ∧
      r.outer = [] ∧ (r.level.content roomOf).pattern = wholeWord ws := by
  obtain ⟨r, ⟨hflags, houter, hkind, hafter⟩, hcontent, n, hn, hread⟩ :=
    exists_readAll_anyOf roomOf (r := (Reading.push {} edgePart).openGroup .plain {}) rfl rfl rfl ws
      [')', '\\', 'b']
  have hchars : wordChars ws = '\\' :: 'b' :: '(' :: '?' :: ':' ::
      (['|'].intercalate (ws.map escapeChars) ++ [')', '\\', 'b']) := by
    simp [wordChars]
  obtain ⟨m, hm⟩ : ∃ m, (wordChars ws).length = n + (m + 1 + 1) + 1 + 1 := by
    refine ⟨(['|'].intercalate (ws.map escapeChars)).length - n + 4, ?_⟩
    rw [hchars]
    simp only [List.length_cons, List.length_append, List.length_nil]
    omega
  have hclosed := step_close roomOf ['\\', 'b'] houter
  rw [hm, hchars, Reading.readAll_cons rfl, step_edge rfl (by simp)]
  dsimp only [Except.bind]
  rw [Reading.readAll_cons rfl, step_group rfl]
  dsimp only [Except.bind]
  rw [hread, Reading.readAll_cons hflags, hclosed]
  dsimp only [Except.bind]
  rw [Reading.readAll_cons hafter, step_edge hafter (by simp)]
  dsimp only [Except.bind]
  refine ⟨_, Reading.readAll_nil, rfl, ?_⟩
  have hclose : (r.level.close roomOf).pattern = anyOf ws := by
    rw [Level.close, hkind]
    exact hcontent
  simp [Level.content, Level.push, Reading.push, Part.choice, Part.concat,
    edgePart, hclose, concat, wholeWord]

end

theorem plain_concat {as : List Pattern} (h : ∀ a ∈ as, a.plain = true) :
    (concat as).plain = true := by
  induction as with
  | nil => rfl
  | cons a as ih =>
      obtain ⟨ha, has⟩ := List.forall_mem_cons.mp h
      cases as with
      | nil => exact ha
      | cons b bs =>
          rw [concat_cons (List.cons_ne_nil b bs), plain, ha, ih has]
          rfl

theorem plain_choice {as : List Pattern} (h : ∀ a ∈ as, a.plain = true) :
    (choice as).plain = true := by
  induction as with
  | nil => rfl
  | cons a as ih =>
      obtain ⟨ha, has⟩ := List.forall_mem_cons.mp h
      cases as with
      | nil => exact ha
      | cons b bs =>
          rw [choice_cons (List.cons_ne_nil b bs), plain, ha, ih has]
          rfl

theorem plain_wholeWord (ws : List (List Char)) : (wholeWord ws).plain = true := by
  have hwords : (anyOf ws).plain = true := by
    refine plain_choice fun a ha => ?_
    obtain ⟨w, -, rfl⟩ := List.mem_map.mp ha
    refine plain_concat fun b hb => ?_
    obtain ⟨c, -, rfl⟩ := List.mem_map.mp hb
    rfl
  simp [wholeWord, plain, hwords]

theorem spellsAll_toList (ws : List String) : SpellsAll ws (ws.map String.toList) := by
  induction ws with
  | nil => exact .nil
  | cons w ws ih =>
      have hcons := SpellsAll.cons w.toList ih
      rwa [String.ofList_toList] at hcons

/-- If the pattern of a list of words can be read, then it reads as the choice between the words
with a word edge on either side. -/
theorem eq_wholeWord_of_ofString {ws : List String} {a : Pattern}
    (h : ofString (words ws) = .ok a) : a = wholeWord (ws.map String.toList) := by
  obtain ⟨r, hread, houter, hcontent⟩ :=
    exists_readAll_wholeWord CharSet.room (ws.map String.toList)
  have hspells : (words ws).toList = wordChars (ws.map String.toList) :=
    spells_words (spellsAll_toList ws)
  rw [ofString, ofChars, hspells, hread] at h
  have hfinish : r.finish CharSet.room = .ok a := h
  rw [Reading.finish, houter] at hfinish
  dsimp only at hfinish
  split at hfinish
  · simp at hfinish
  · split at hfinish
    · simp at hfinish
    · rw [← Except.ok.inj hfinish, hcontent, number_of_plain (plain_wholeWord _)]

end Highlight.Pattern
