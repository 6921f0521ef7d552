import Highlight.Proofs.Document.Edits
import Highlight.Proofs.Document.Scripts
import Mathlib.Data.List.Nodup

/-!
# Documents laid flat

Position by position a document is a list of entries: the opening boundary of a block, its
characters and its closing boundary.  The document that an edit gives and the change set that it
returns describe the same change: run over the old entries, the change set gives the new ones, so
each entry that is kept stands at its mapped position, and so does every block.
-/

namespace Highlight

/-- What stands at a position. -/
inductive Entry where
  | opening (id : NodeId) (type : String)
  | char (c : Char)
  | closing
  deriving DecidableEq, Repr

/-- The characters of a text as entries. -/
def Entry.ofText (text : String) : List Entry := text.toList.map .char

def Block.entries (b : Block) : List Entry :=
  .opening b.id b.type :: (Entry.ofText b.text ++ [.closing])

namespace Document

def entriesOf (bs : List Block) : List Entry := bs.flatMap Block.entries

def entries (d : Document) : List Entry := entriesOf d.blocks

def DistinctIds (d : Document) : Prop := (d.blocks.map Block.id).Nodup

end Document

/-- The entries that an edit puts in. -/
def Edit.entries : Edit → List Entry
  | .insertText _ text => Entry.ofText text
  | .deleteText _ _ => []
  | .replace _ _ text => Entry.ofText text
  | .setLanguage _ _ => []
  | .insertBlock _ block => block.entries
  | .removeBlock _ => []

/-- Between the blocks in front and at the back, an edit puts some blocks in place of others. -/
inductive Edit.Swaps (front back : List Block) : Edit → List Block → List Block → Prop
  | insertText (b : Block) (i : Nat) (text : String) (hi : i ≤ b.length) :
      Swaps front back (.insertText (Document.sizeOf front + 1 + i) text) [b] [b.splice i i text]
  | deleteText (b : Block) (i j : Nat) (hij : i ≤ j) (hj : j ≤ b.length) :
      Swaps front back
        (.deleteText (Document.sizeOf front + 1 + i) (Document.sizeOf front + 1 + j)) [b]
        [b.splice i j ""]
  | replace (b : Block) (i j : Nat) (text : String) (hij : i ≤ j) (hj : j ≤ b.length) :
      Swaps front back
        (.replace (Document.sizeOf front + 1 + i) (Document.sizeOf front + 1 + j) text) [b]
        [b.splice i j text]
  | setLanguage (b : Block) (language : Option String) (hfirst : ∀ x ∈ front, x.id ≠ b.id) :
      Swaps front back (.setLanguage b.id language) [b] [{ b with language }]
  | insertBlock (index : Nat) (b : Block)
      (hfront : front.length = min index (front ++ back).length) :
      Swaps front back (.insertBlock index b) [] [b]
  | removeBlock (b : Block) (hfirst : ∀ x ∈ front, x.id ≠ b.id) :
      Swaps front back (.removeBlock b.id) [b] []

namespace Entry

@[simp] theorem length_ofText (text : String) : (ofText text).length = text.length := by
  rw [ofText, List.length_map, String.length_toList]

theorem opening_notMem_ofText (id : NodeId) (type text : String) :
    Entry.opening id type ∉ ofText text := by
  simp [ofText]

end Entry

@[simp] theorem Block.length_entries (b : Block) : b.entries.length = b.size := by
  simp [entries, size, length]

namespace Document

@[simp] theorem entriesOf_nil : entriesOf [] = [] := rfl

@[simp] theorem entriesOf_cons (b : Block) (bs : List Block) :
    entriesOf (b :: bs) = b.entries ++ entriesOf bs := rfl

@[simp] theorem entriesOf_append (xs ys : List Block) :
    entriesOf (xs ++ ys) = entriesOf xs ++ entriesOf ys := List.flatMap_append

@[simp] theorem length_entriesOf (bs : List Block) : (entriesOf bs).length = sizeOf bs := by
  induction bs with
  | nil => rfl
  | cons b bs ih => simp [ih]

theorem length_entries (d : Document) : d.entries.length = d.size := length_entriesOf d.blocks

/-! ### The positions of blocks -/

/-- Within a block only the first entry is an opening boundary. -/
theorem getElem?_block_entries (b : Block) {p : Nat} {id : NodeId} {type : String}
    (h : b.entries[p]? = some (.opening id type)) : p = 0 ∧ b.id = id ∧ b.type = type := by
  cases p with
  | zero => simpa [Block.entries] using h
  | succ p =>
      have hmem : Entry.opening id type ∈ Entry.ofText b.text ++ [.closing] := by
        rw [Block.entries, List.getElem?_cons_succ] at h
        exact List.mem_of_getElem? h
      simp [Entry.opening_notMem_ofText] at hmem

/-- The opening boundaries stand where the blocks are placed. -/
theorem getElem?_entriesOf_iff {bs : List Block} {p q : Nat} {id : NodeId} {type : String} :
    (entriesOf bs)[p]? = some (.opening id type) ↔
      ∃ b ∈ placeFrom q bs, b.pos = q + p ∧ b.block.id = id ∧ b.block.type = type := by
  induction bs generalizing p q with
  | nil => simp
  | cons b bs ih =>
      rw [entriesOf_cons, placeFrom_cons]
      constructor
      · intro h
        by_cases hp : p < b.entries.length
        · rw [List.getElem?_append_left hp] at h
          obtain ⟨rfl, hid, htype⟩ := getElem?_block_entries b h
          exact ⟨⟨q, b⟩, List.mem_cons_self, rfl, hid, htype⟩
        · have hle := Nat.le_of_not_lt hp
          rw [List.getElem?_append_right hle] at h
          obtain ⟨c, hc, hpos, hat⟩ := (ih (q := q + b.size)).mp h
          rw [Block.length_entries] at hle hpos
          exact ⟨c, List.mem_cons_of_mem _ hc, by omega, hat⟩
      · rintro ⟨c, hc, hpos, hat⟩
        rcases List.mem_cons.mp hc with rfl | hc
        · obtain rfl : p = 0 := by
            simp only at hpos
            omega
          simpa [Block.entries] using hat
        · have hge := (bounds_of_mem_placeFrom hc).1
          rw [List.getElem?_append_right (by rw [Block.length_entries]; omega),
            ih (q := q + b.size)]
          exact ⟨c, hc, by rw [Block.length_entries]; omega, hat⟩

theorem map_block_placeFrom (p : Nat) (bs : List Block) :
    (placeFrom p bs).map Placed.block = bs := by
  induction bs generalizing p with
  | nil => rfl
  | cons b bs ih => simp [ih]

theorem DistinctIds.positionOf_iff {d : Document} (hd : d.DistinctIds) {id : NodeId} {p : Nat} :
    d.positionOf id = some p ↔ ∃ type, d.entries[p]? = some (.opening id type) := by
  have hplaced : (d.placed.map fun b => b.block.id).Nodup := by
    have hmap : d.placed.map (fun b => b.block.id) = d.blocks.map Block.id := by
      rw [← map_block_placeFrom 0 d.blocks, List.map_map]
      rfl
    rw [hmap]
    exact hd
  constructor
  · intro h
    obtain ⟨b, hfind, rfl⟩ := Option.map_eq_some_iff.mp h
    refine ⟨b.block.type, (getElem?_entriesOf_iff (q := 0)).mpr ?_⟩
    exact ⟨b, List.mem_of_find?_eq_some hfind, (Nat.zero_add _).symm,
      by simpa using List.find?_some hfind, rfl⟩
  · rintro ⟨type, h⟩
    obtain ⟨b, hb, hpos, hid, -⟩ := (getElem?_entriesOf_iff (q := 0)).mp h
    have hsome : (d.placed.find? (·.block.id == id)).isSome := by
      rw [List.find?_isSome]
      exact ⟨b, hb, beq_iff_eq.mpr hid⟩
    obtain ⟨c, hc⟩ := Option.isSome_iff_exists.mp hsome
    have hcid : c.block.id = id := by simpa using List.find?_some hc
    obtain rfl : c = b := List.inj_on_of_nodup_map hplaced (List.mem_of_find?_eq_some hc) hb
      (hcid.trans hid.symm)
    rw [positionOf, hc, Option.map_some, hpos, Nat.zero_add]

/-! ### What an edit does to the entries -/

/-- An edit of a document, with the blocks that it swaps and the entries that it takes out of
them. -/
inductive Traced (d : Document) (e : Edit) (d' : Document) (c : ChangeSet) : Prop
  | intro (front old new back : List Block) (before gone after : List Entry)
      (hd : d.blocks = front ++ (old ++ back)) (hd' : d'.blocks = front ++ (new ++ back))
      (hswap : e.Swaps front back old new) (hold : entriesOf old = before ++ (gone ++ after))
      (hnew : entriesOf new = before ++ (e.entries ++ after))
      (hgone : ∀ id type, Entry.opening id type ∈ gone → e = .removeBlock id)
      (hc : c = ChangeSet.splice (sizeOf front + before.length) gone.length e.entries.length
        (after.length + sizeOf back))

/-- The entries of a block around a range of its characters. -/
theorem entries_split (b : Block) {i j : Nat} (hij : i ≤ j) (hj : j ≤ b.length) (text : String) :
    ∃ before gone after, b.entries = before ++ (gone ++ after) ∧
      (b.splice i j text).entries = before ++ (Entry.ofText text ++ after) ∧
      (∀ id type, Entry.opening id type ∉ gone) ∧ before.length = 1 + i ∧ gone.length = j - i ∧
      after.length = b.length - j + 1 := by
  have hlen : b.text.toList.length = b.length := String.length_toList
  refine ⟨.opening b.id b.type :: (b.text.toList.take i).map .char,
    ((b.text.toList.take j).drop i).map .char, (b.text.toList.drop j).map .char ++ [.closing],
    ?_, ?_, ?_, ?_, ?_, ?_⟩
  · rw [Block.entries, Entry.ofText]
    nth_rewrite 1 [b.text_split hij]
    simp
  · simp [Block.entries, Block.splice, Entry.ofText]
  · intro id type hmem
    obtain ⟨ch, -, heq⟩ := List.mem_map.mp hmem
    exact Entry.noConfusion heq
  · rw [List.length_cons, List.length_map, List.length_take, hlen]
    omega
  · rw [List.length_map, List.length_drop, List.length_take, hlen]
    omega
  · rw [List.length_append, List.length_map, List.length_drop, hlen, List.length_singleton]

variable {d d' : Document} {c : ChangeSet}

/-- The edits of a text differ in their names only. -/
theorem traced_of_replace {e : Edit} {start stop : Nat} {text : String}
    (h : d.replace start stop text = .ok (d', c)) (hentries : e.entries = Entry.ofText text)
    (hswap : ∀ front back b i j, i ≤ j → j ≤ b.length → start = sizeOf front + 1 + i →
      stop = sizeOf front + 1 + j → e.Swaps front back [b] [b.splice i j text]) :
    Traced d e d' c := by
  obtain ⟨front, b, back, i, j, hblocks, hij, hj, hstart, hstop, -, rfl, rfl⟩ := replace_split h
  obtain ⟨before, gone, after, hold, hnew, hgone, hbefore, hlength, hafter⟩ :=
    entries_split b hij hj text
  have hsize : d.size = sizeOf front + (b.length + 2) + sizeOf back := by
    rw [size, hblocks, sizeOf_append, sizeOf_cons, Block.size, ← Nat.add_assoc]
  refine .intro front [b] [b.splice i j text] back before gone after hblocks rfl
    (hswap front back b i j hij hj hstart hstop) ?_ ?_ ?_ ?_
  · simpa using hold
  · simpa [hentries] using hnew
  · intro id type hmem
    exact absurd hmem (hgone id type)
  · rw [hentries, Entry.length_ofText, hbefore, hlength, hafter]
    congr 1 <;> omega

theorem traced_of_edit {e : Edit} (h : d.edit e = .ok (d', c)) : Traced d e d' c := by
  cases e with
  | insertText pos text =>
      apply traced_of_replace h rfl
      rintro front back b i j hij hj rfl hstop
      obtain rfl : i = j := by omega
      exact .insertText b i text hj
  | deleteText start stop =>
      apply traced_of_replace h rfl
      rintro front back b i j hij hj rfl rfl
      exact .deleteText b i j hij hj
  | replace start stop text =>
      apply traced_of_replace h rfl
      rintro front back b i j hij hj rfl rfl
      exact .replace b i j text hij hj
  | setLanguage id language =>
      obtain ⟨front, b, back, hblocks, rfl, hfirst, rfl, rfl⟩ := setLanguage_split h
      have hsize : d.size = sizeOf front + sizeOf (b :: back) := by
        rw [size, hblocks, sizeOf_append]
      refine .intro front [b] [{ b with language }] back [] [] b.entries hblocks rfl
        (.setLanguage b language hfirst) (by simp) (by simp [Edit.entries, Block.entries])
        (by simp) ?_
      rw [hsize, ← ChangeSet.splice_zero_zero]
      simp [Edit.entries]
  | insertBlock index b =>
      obtain ⟨front, back, hblocks, hfront, heq⟩ := d.insertBlock_split index b
      obtain ⟨rfl, rfl⟩ := Prod.mk.inj ((Except.ok.inj h).symm.trans heq)
      refine .intro front [] [b] back [] [] [] hblocks rfl (.insertBlock index b ?_) rfl
        (by simp [Edit.entries]) (by simp) (by simp [Edit.entries])
      rw [hfront, hblocks]
  | removeBlock id =>
      obtain ⟨front, b, back, hblocks, rfl, hfirst, rfl, rfl⟩ := removeBlock_split h
      refine .intro front [b] [] back [] b.entries [] hblocks rfl (.removeBlock b hfirst) (by simp)
        rfl ?_ (by simp [Edit.entries])
      intro id type hmem
      obtain ⟨p, hp⟩ := List.getElem?_of_mem hmem
      rw [(getElem?_block_entries b hp).2.1]

/-- The entries before and after, with the change set as a splice of them. -/
theorem Traced.splice {e : Edit} (h : Traced d e d' c) :
    ∃ before gone after, d.entries = before ++ (gone ++ after) ∧
      d'.entries = before ++ (e.entries ++ after) ∧
      c = ChangeSet.splice before.length gone.length e.entries.length after.length ∧
      ∀ id type, Entry.opening id type ∈ gone → e = .removeBlock id := by
  obtain ⟨front, old, new, back, before, gone, after, hd, hd', -, hold, hnew, hgone, rfl⟩ := h
  refine ⟨entriesOf front ++ before, gone, after ++ entriesOf back, ?_, ?_, ?_, hgone⟩
  · rw [entries, hd, entriesOf_append, entriesOf_append, hold]
    simp
  · rw [entries, hd', entriesOf_append, entriesOf_append, hnew]
    simp
  · simp

/-- Only a removed block loses its opening boundary. -/
theorem Traced.not_deletes {e : Edit} (h : Traced d e d' c) {id : NodeId} {type : String} {p : Nat}
    (hp : d.entries[p]? = some (.opening id type)) (he : e ≠ .removeBlock id) :
    c.deletes p = false := by
  obtain ⟨before, gone, after, hd, -, rfl, hgone⟩ := h.splice
  rw [ChangeSet.deletes_splice, Bool.and_eq_false_imp]
  intro hle
  rw [decide_eq_true_eq] at hle
  rw [decide_eq_false_iff_not]
  intro hlt
  rw [hd, List.getElem?_append_right hle, List.getElem?_append_left hlt] at hp
  exact he (hgone id type (List.mem_of_getElem? hp))

/-- An edit and the change set that it returns describe the same change.  The change set has the
sizes of both documents and makes the new entries out of the old ones; entries that it keeps, and so
the blocks that stay, are found at their mapped positions; and but for the blocks that the edit is
about, the blocks are the same, in the same order. -/
theorem edit_and_change_set_agree {e : Edit} (h : d.edit e = .ok (d', c)) :
    c.sizeBefore = d.size ∧ c.sizeAfter = d'.size ∧
    c.perform d.entries e.entries = some d'.entries ∧
    (∀ p x, d.entries[p]? = some x → c.deletes p = false →
      d'.entries[c.mapPos .right p]? = some x) ∧
    (d.DistinctIds → d'.DistinctIds → ∀ b ∈ d.blocks, e ≠ .removeBlock b.id →
      ∃ p, d.positionOf b.id = some p ∧ d'.positionOf b.id = some (c.mapPos .right p)) ∧
    ∃ front old new back, d.blocks = front ++ (old ++ back) ∧ d'.blocks = front ++ (new ++ back) ∧
      e.Swaps front back old new := by
  have htraced := traced_of_edit h
  obtain ⟨before, gone, after, hd, hd', hc, -⟩ := htraced.splice
  have hsizes := ChangeSet.sizes_splice before.length gone.length e.entries.length after.length
  have hperform : c.perform d.entries e.entries = some d'.entries := by
    rw [hd, hd', hc]
    exact ChangeSet.perform_splice before gone e.entries after
  have hkept : ∀ p x, d.entries[p]? = some x → c.deletes p = false →
      d'.entries[c.mapPos .right p]? = some x :=
    fun p x hp hdel => ChangeSet.getElem?_of_performRuns hperform hp hdel
  refine ⟨?_, ?_, hperform, hkept, ?_, ?_⟩
  · rw [hc, hsizes.1, ← length_entries, hd]
    simp [Nat.add_assoc]
  · rw [hc, hsizes.2, ← length_entries, hd']
    simp [Nat.add_assoc]
  · intro hids hids' b hb hremoved
    have hopening : ∃ p : Nat, d.entries[p]? = some (Entry.opening b.id b.type) := by
      obtain ⟨i, hi⟩ := List.getElem?_of_mem hb
      refine ⟨sizeOf (d.blocks.take i), (getElem?_entriesOf_iff (q := 0)).mpr ?_⟩
      refine ⟨⟨0 + sizeOf (d.blocks.take i), b⟩, List.mem_of_getElem? (i := i) ?_, rfl, rfl, rfl⟩
      rw [getElem?_placeFrom, hi, Option.map_some]
    obtain ⟨p, hp⟩ := hopening
    refine ⟨p, hids.positionOf_iff.mpr ⟨b.type, hp⟩, hids'.positionOf_iff.mpr ⟨b.type, ?_⟩⟩
    exact hkept p _ hp (htraced.not_deletes hp hremoved)
  · obtain ⟨front, old, new, back, -, -, -, hblocks, hblocks', hswap, -⟩ := htraced
    exact ⟨front, old, new, back, hblocks, hblocks', hswap⟩

/-- One letter of several bytes gives way to three, in front of an empty block. -/
theorem replace_in_front_of_an_empty_block :
    let d : Document :=
      ⟨[{ id := 1, type := "paragraph", text := "π→" },
        { id := 2, language := some "x", text := "añb" }, { id := 3, text := "" }]⟩
    let d' : Document :=
      ⟨[{ id := 1, type := "paragraph", text := "π→" },
        { id := 2, language := some "x", text := "aê↦ëb" }, { id := 3, text := "" }]⟩
    let e : Edit := .replace 6 7 "ê↦ë"
    let c : ChangeSet := ⟨[.retain 6, .insert 3, .delete 1, .retain 4], 11, 13⟩
    d.edit e = .ok (d', c) ∧ d.DistinctIds ∧ d'.DistinctIds ∧ c.sizeAfter = d'.size ∧
      c.perform d.entries e.entries = some d'.entries ∧ c.deletes 7 = false ∧
      d'.entries[c.mapPos .right 7]? = some (.char 'b') ∧
      ∃ p, d.positionOf 3 = some p ∧ d'.positionOf 3 = some (c.mapPos .right p) := by
  intro d d' e c
  have hedit : d.edit e = .ok (d', c) := by decide +kernel
  have hids : d.DistinctIds ∧ d'.DistinctIds := by
    constructor <;> exact List.nodup_iff_pairwise_ne.mpr (by simp [d, d'])
  obtain ⟨-, hafter, hperform, hkept, hplaces, -⟩ := edit_and_change_set_agree hedit
  have hdel : c.deletes 7 = false := by decide
  exact ⟨hedit, hids.1, hids.2, hafter, hperform, hdel,
    hkept 7 (.char 'b') (by decide +kernel) hdel,
    hplaces hids.1 hids.2 { id := 3, text := "" } (by simp [d]) (by simp [e])⟩

end Document

end Highlight
