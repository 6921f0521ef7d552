import Highlight.Document

/-!
# Where blocks are

Positions of blocks in a list that is put together from parts, and what an edit does to the list.
-/

namespace Highlight.Document

@[simp] theorem sizeOf_nil : sizeOf ([] : List Block) = 0 := rfl

@[simp] theorem sizeOf_cons (b : Block) (bs : List Block) : sizeOf (b :: bs) = b.size + sizeOf bs :=
  rfl

@[simp] theorem sizeOf_append (xs ys : List Block) : sizeOf (xs ++ ys) = sizeOf xs + sizeOf ys := by
  induction xs with
  | nil => simp
  | cons b xs ih => simp [ih, Nat.add_assoc]

@[simp] theorem placeFrom_nil (p : Nat) : placeFrom p [] = [] := rfl

@[simp] theorem placeFrom_cons (p : Nat) (b : Block) (bs : List Block) :
    placeFrom p (b :: bs) = ⟨p, b⟩ :: placeFrom (p + b.size) bs := rfl

theorem placeFrom_append (p : Nat) (xs ys : List Block) :
    placeFrom p (xs ++ ys) = placeFrom p xs ++ placeFrom (p + sizeOf xs) ys := by
  induction xs generalizing p with
  | nil => simp
  | cons b xs ih => simp [ih, Nat.add_assoc]

theorem getElem?_placeFrom (p : Nat) (bs : List Block) (i : Nat) :
    (placeFrom p bs)[i]? = bs[i]?.map fun b => ⟨p + sizeOf (bs.take i), b⟩ := by
  induction bs generalizing p i with
  | nil => simp
  | cons b bs ih =>
      cases i with
      | zero => simp
      | succ i => simp [ih, Nat.add_assoc]

theorem bounds_of_mem_placeFrom {p : Nat} {bs : List Block} {b : Placed} (h : b ∈ placeFrom p bs) :
    p ≤ b.pos ∧ b.pos + b.block.size ≤ p + sizeOf bs := by
  induction bs generalizing p with
  | nil => simp at h
  | cons c bs ih =>
      rcases List.mem_cons.mp h with rfl | h
      · simp
      · obtain ⟨hp, hb⟩ := ih h
        rw [sizeOf_cons]
        omega

theorem block_of_mem_placeFrom {p : Nat} {bs : List Block} {b : Placed} (h : b ∈ placeFrom p bs) :
    b.block ∈ bs := by
  induction bs generalizing p with
  | nil => simp at h
  | cons c bs ih =>
      rcases List.mem_cons.mp h with rfl | h
      · exact List.mem_cons_self
      · exact List.mem_cons_of_mem _ (ih h)

theorem pairwise_placeFrom (p : Nat) (bs : List Block) :
    (placeFrom p bs).Pairwise fun b c => b.pos + b.block.size ≤ c.pos := by
  induction bs generalizing p with
  | nil => simp
  | cons b bs ih =>
      refine List.pairwise_cons.mpr ⟨?_, ih _⟩
      intro c hc
      exact (bounds_of_mem_placeFrom hc).1

/-- A list falls into what stands before a place, the block there, and what stands after it. -/
theorem exists_split {bs : List Block} {i : Nat} {b : Block} (h : bs[i]? = some b) :
    ∃ front back, bs = front ++ b :: back ∧ front.length = i ∧ bs.take i = front := by
  obtain ⟨hi, hb⟩ := List.getElem?_eq_some_iff.mp h
  refine ⟨bs.take i, bs.drop (i + 1), ?_, by simp; omega, rfl⟩
  rw [← hb, ← List.drop_eq_getElem_cons hi, List.take_append_drop]

theorem find_of_locate {d : Document} {p i : Nat} {b : Placed} (h : d.locate p = some (i, b)) :
    d.placed[i]? = some b ∧ d.placed.find? (·.holds p) = some b := by
  unfold locate at h
  cases hi : d.placed.findIdx? (·.holds p) with
  | none => simp [hi] at h
  | some j =>
      rw [hi] at h
      obtain ⟨c, hc, he⟩ := Option.map_eq_some_iff.mp h
      obtain ⟨rfl, rfl⟩ := Prod.mk.inj he
      obtain ⟨hj, hholds, hbefore⟩ := List.findIdx?_eq_some_iff_getElem.mp hi
      have hget : d.placed[j] = c := by simpa [List.getElem?_eq_getElem hj] using hc
      refine ⟨hc, List.find?_eq_some_iff_getElem.mpr ?_⟩
      exact ⟨hget ▸ hholds, j, hj, hget, fun k hk => by simpa using hbefore k hk⟩

theorem holds_iff {b : Placed} {p : Nat} :
    b.holds p = true ↔ b.pos + 1 ≤ p ∧ p ≤ b.pos + 1 + b.block.length := by
  rw [Placed.holds, Bool.and_eq_true, decide_eq_true_iff, decide_eq_true_iff]
  rfl

/-- No two blocks hold one position. -/
theorem eq_of_holds {d : Document} {p i j : Nat} {b c : Placed} (hb : d.placed[i]? = some b)
    (hc : d.placed[j]? = some c) (hbp : b.holds p = true) (hcp : c.holds p = true) : i = j := by
  have hapart : ∀ {i j : Nat} {b c : Placed}, d.placed[i]? = some b → d.placed[j]? = some c →
      b.holds p = true → c.holds p = true → ¬ i < j := by
    intro i j b c hb hc hbp hcp hij
    obtain ⟨hi, rfl⟩ := List.getElem?_eq_some_iff.mp hb
    obtain ⟨hj, rfl⟩ := List.getElem?_eq_some_iff.mp hc
    have horder := List.pairwise_iff_getElem.mp (pairwise_placeFrom 0 d.blocks) i j hi hj hij
    rw [Block.size] at horder
    have hbounds := (holds_iff.mp hbp).2
    have hbounds' := (holds_iff.mp hcp).1
    simp only [placed] at hbounds hbounds'
    omega
  have hle := hapart hb hc hbp hcp
  have hge := hapart hc hb hcp hbp
  omega

theorem holds_of_locate {d : Document} {p i : Nat} {b : Placed} (h : d.locate p = some (i, b)) :
    b.holds p = true :=
  (List.find?_eq_some_iff_getElem.mp (find_of_locate h).2).1

theorem locate_eq_none_iff {d : Document} {p : Nat} :
    d.locate p = none ↔ ∀ b ∈ d.placed, b.holds p = false := by
  constructor
  · intro h
    unfold locate at h
    split at h
    · rename_i hnone
      exact List.findIdx?_eq_none_iff.mp hnone
    · rename_i i hi
      obtain ⟨hlt, -⟩ := List.findIdx?_eq_some_iff_getElem.mp hi
      simp [List.getElem?_eq_getElem hlt] at h
  · intro h
    rw [locate, List.findIdx?_eq_none_iff.mpr h]

theorem locate_eq_some_iff {d : Document} {p i : Nat} {b : Placed} :
    d.locate p = some (i, b) ↔ d.placed[i]? = some b ∧ b.holds p = true := by
  constructor
  · exact fun h => ⟨(find_of_locate h).1, holds_of_locate h⟩
  · rintro ⟨hi, hb⟩
    cases hl : d.locate p with
    | none =>
        have hall := locate_eq_none_iff.mp hl b (List.mem_of_getElem? hi)
        simp [hb] at hall
    | some found =>
        obtain ⟨j, c⟩ := found
        obtain ⟨hj, -⟩ := find_of_locate hl
        obtain rfl := eq_of_holds hj hi (holds_of_locate hl) hb
        rw [hi] at hj
        rw [Option.some.inj hj]

theorem typeAt_of_locate {d : Document} {p i : Nat} {b : Placed} (h : d.locate p = some (i, b)) :
    d.typeAt p = some b.block.type := by
  rw [typeAt, blockAt, (find_of_locate h).2, Option.map_some]

theorem locate_split {d : Document} {p i : Nat} {b : Placed} (h : d.locate p = some (i, b)) :
    b.holds p = true ∧ ∃ front back, d.blocks = front ++ b.block :: back ∧ front.length = i ∧
      b.pos = sizeOf front := by
  obtain ⟨hi, -⟩ := find_of_locate h
  refine ⟨holds_of_locate h, ?_⟩
  rw [placed, getElem?_placeFrom] at hi
  obtain ⟨blk, hblk, rfl⟩ := Option.map_eq_some_iff.mp hi
  obtain ⟨front, back, hsplit, hlen, htake⟩ := exists_split hblk
  exact ⟨front, back, hsplit, hlen, by simp [htake]⟩

theorem indexOf?_split {d : Document} {id : NodeId} {i : Nat} (h : d.indexOf? id = some i) :
    ∃ front b back, d.blocks = front ++ b :: back ∧ front.length = i ∧ b.id = id ∧
      ∀ x ∈ front, x.id ≠ id := by
  obtain ⟨hi, hid, hbefore⟩ := List.findIdx?_eq_some_iff_getElem.mp h
  obtain ⟨front, back, hsplit, hlen, htake⟩ :=
    exists_split (List.getElem?_eq_getElem hi)
  refine ⟨front, d.blocks[i], back, hsplit, hlen, beq_iff_eq.mp hid, ?_⟩
  intro x hx
  rw [← htake] at hx
  obtain ⟨j, hj, rfl⟩ := List.mem_take_iff_getElem.mp hx
  simpa using hbefore j (by omega)

theorem indexOf?_of_split {d : Document} {front back : List Block} {b : Block}
    (h : d.blocks = front ++ b :: back) (hfront : ∀ x ∈ front, x.id ≠ b.id) :
    d.indexOf? b.id = some front.length := by
  have hnone : front.findIdx? (·.id == b.id) = none := by simpa using hfront
  simp [indexOf?, h, List.findIdx?_append, hnone, List.findIdx?_cons]

theorem find?_of_split {bs front back : List Block} {b : Block} (h : bs = front ++ b :: back)
    (hfront : ∀ x ∈ front, x.id ≠ b.id) : bs.find? (·.id == b.id) = some b := by
  have hnone : front.find? (·.id == b.id) = none := by simpa using hfront
  simp [h, List.find?_append, hnone]

theorem modify_split {bs front back : List Block} {b : Block} (h : bs = front ++ b :: back)
    (f : Block → Block) : bs.modify front.length f = front ++ f b :: back := by
  subst h
  induction front with
  | nil => rfl
  | cons c front ih => simpa using ih

theorem eraseIdx_split {bs front back : List Block} {b : Block} (h : bs = front ++ b :: back) :
    bs.eraseIdx front.length = front ++ back := by
  subst h
  induction front with
  | nil => rfl
  | cons c front ih => simpa using ih

end Highlight.Document
