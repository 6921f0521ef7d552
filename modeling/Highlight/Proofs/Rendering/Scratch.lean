import Highlight.Decoration
import Highlight.Language
import Highlight.Proofs.Document.Layout
import Highlight.Proofs.Grammar.Checked

/-!
# Decorations from scratch

What a document should look like, said without caches, loads and passes: each block of the region
type whose language has a known grammar shows the labelled tokens of its text, at the place where
its content starts, and nothing else shows anything.  The decorations come in order, and each
block's stay inside the block.
-/

namespace Highlight

/-- The decoration of a token in a text that starts at a position. -/
def Token.at (start : Nat) (t : Token) : Decoration := ⟨start + t.start, start + t.stop, t.labels⟩

section

variable (type : String) (known : String → Option Grammar) (limits : Limits)

/-- The labelled tokens of a text in a declared language.  Plain and unknown languages have none,
and neither has a text whose tokenization fails. -/
def labelledTokens (language : Option String) (text : String) : List Token :=
  match language with
  | none => []
  | some tag =>
      if Language.isPlain tag then []
      else
        match known tag with
        | none => []
        | some g =>
            match g.check text limits with
            | .error _ => []
            | .ok tokens => tokens.filter fun t => !t.labels.isEmpty

def Placed.scratch (b : Placed) : List Decoration :=
  (labelledTokens known limits b.block.language b.block.text).map (Token.at b.contentStart)

/-- The decorations of a document: those of its blocks of the region type, in document order. -/
def Document.scratch (d : Document) : List Decoration :=
  (d.placed.filter (·.block.type == type)).flatMap (Placed.scratch known limits)

def Document.scratchFrom (p : Nat) (bs : List Block) : List Decoration :=
  ((Document.placeFrom p bs).filter (·.block.type == type)).flatMap (Placed.scratch known limits)

end

section

variable {type : String} {known : String → Option Grammar} {limits : Limits}

theorem labelledTokens_inside (language : Option String) (text : String) :
    (∀ t ∈ labelledTokens known limits language text, t.Inside text.length) ∧
      (labelledTokens known limits language text).Pairwise fun t u => t.stop ≤ u.start := by
  unfold labelledTokens
  split
  · simp
  · split
    · simp
    · split
      · simp
      · split
        · simp
        · rename_i tokens hc
          obtain ⟨hall, hpair⟩ := Grammar.check_ok hc
          exact ⟨fun t ht => hall t (List.mem_filter.mp ht).1, hpair.filter _⟩

theorem labelledTokens_congr {known' : String → Option Grammar} {language : Option String}
    (h : ∀ tag, language = some tag → Language.isPlain tag = false → known tag = known' tag)
    (text : String) :
    labelledTokens known limits language text = labelledTokens known' limits language text := by
  cases language with
  | none => rfl
  | some tag =>
      cases hplain : Language.isPlain tag with
      | true => simp [labelledTokens, hplain]
      | false => simp [labelledTokens, hplain, h tag rfl hplain]

theorem Placed.scratch_inside (b : Placed) {x : Decoration} (hx : x ∈ b.scratch known limits) :
    b.contentStart ≤ x.start ∧ x.start < x.stop ∧ x.stop ≤ b.contentStop := by
  obtain ⟨t, ht, rfl⟩ := List.mem_map.mp hx
  obtain ⟨hlt, hle⟩ := (labelledTokens_inside _ _).1 t ht
  simp only [Token.at, contentStop, Block.length]
  omega

namespace Document

theorem scratchFrom_zero (d : Document) :
    scratchFrom type known limits 0 d.blocks = d.scratch type known limits := rfl

theorem scratch_congr {known' : String → Option Grammar} {d : Document}
    (h : ∀ b ∈ d.blocks, b.type = type → ∀ tag, b.language = some tag →
      Language.isPlain tag = false → known tag = known' tag) :
    d.scratch type known limits = d.scratch type known' limits := by
  have hplaced : ∀ b ∈ d.placed.filter (·.block.type == type),
      b.scratch known limits = b.scratch known' limits := by
    intro b hb
    obtain ⟨hmem, htype⟩ := List.mem_filter.mp hb
    have htokens : labelledTokens known limits b.block.language b.block.text =
        labelledTokens known' limits b.block.language b.block.text :=
      labelledTokens_congr (h b.block (block_of_mem_placeFrom hmem) (by simpa using htype)) _
    rw [Placed.scratch, Placed.scratch, htokens]
  rw [scratch, scratch, List.flatMap_def, List.flatMap_def, List.map_congr_left hplaced]

@[simp] theorem scratchFrom_nil (p : Nat) : scratchFrom type known limits p [] = [] := rfl

theorem scratchFrom_cons (p : Nat) (b : Block) (bs : List Block) :
    scratchFrom type known limits p (b :: bs) =
      (if b.type = type then Placed.scratch known limits ⟨p, b⟩ else []) ++
        scratchFrom type known limits (p + b.size) bs := by
  by_cases h : b.type = type <;> simp [scratchFrom, h]

theorem scratchFrom_append (p : Nat) (xs ys : List Block) :
    scratchFrom type known limits p (xs ++ ys) =
      scratchFrom type known limits p xs ++ scratchFrom type known limits (p + sizeOf xs) ys := by
  simp [scratchFrom, placeFrom_append]

/-- Each decoration lies inside one block of the region type. -/
theorem exists_block_of_mem_scratchFrom {p : Nat} {bs : List Block} {x : Decoration}
    (hx : x ∈ scratchFrom type known limits p bs) :
    ∃ b ∈ placeFrom p bs, b.block.type = type ∧ x ∈ b.scratch known limits := by
  obtain ⟨b, hb, hxb⟩ := List.mem_flatMap.mp hx
  obtain ⟨hmem, ht⟩ := List.mem_filter.mp hb
  exact ⟨b, hmem, by simpa using ht, hxb⟩

/-- Each decoration lies strictly inside the stretch of the blocks and is not empty. -/
theorem bounds_of_mem_scratchFrom {p : Nat} {bs : List Block} {x : Decoration}
    (hx : x ∈ scratchFrom type known limits p bs) :
    p < x.start ∧ x.start < x.stop ∧ x.stop < p + sizeOf bs := by
  obtain ⟨b, hb, -, hxb⟩ := exists_block_of_mem_scratchFrom hx
  obtain ⟨hp, hs⟩ := bounds_of_mem_placeFrom hb
  obtain ⟨hstart, hlt, hstop⟩ := b.scratch_inside hxb
  simp only [Placed.contentStop, Placed.contentStart, Block.size] at *
  omega

theorem scratchFrom_pairwise (p : Nat) (bs : List Block) :
    (scratchFrom type known limits p bs).Pairwise fun x y => x.stop ≤ y.start := by
  unfold scratchFrom
  rw [List.pairwise_flatMap]
  constructor
  · intro b hb
    rw [Placed.scratch, List.pairwise_map]
    refine (labelledTokens_inside _ _).2.imp ?_
    intro t u h
    simpa [Token.at] using h
  · refine ((pairwise_placeFrom p bs).filter _).imp ?_
    intro b c hbc x hx y hy
    obtain ⟨-, -, hstop⟩ := b.scratch_inside hx
    obtain ⟨hstart, -⟩ := c.scratch_inside hy
    simp only [Placed.contentStop, Placed.contentStart, Block.size] at *
    omega

theorem ofList_scratchFrom (p : Nat) (bs : List Block) :
    (DecorationSet.ofList (scratchFrom type known limits p bs)).toList =
      scratchFrom type known limits p bs := by
  apply List.mergeSort_of_pairwise
  refine List.Pairwise.imp_of_mem ?_ (scratchFrom_pairwise p bs)
  intro x y hx hy hxy
  have := (bounds_of_mem_scratchFrom hx).2.1
  simp only [Decoration.le, Bool.or_eq_true, decide_eq_true_eq]
  exact Or.inl (by omega)

end Document

end

end Highlight
