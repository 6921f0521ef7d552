import Highlight.Pattern.Room
import Mathlib.Data.List.Basic
import Mathlib.Algebra.GroupWithZero.Nat
import Mathlib.Algebra.Order.BigOperators.Group.List
import Mathlib.Algebra.Order.Group.Nat

/-!
# Bounds on room

A set with few boundaries is a few ranges of characters, each of which takes at most 21 sequences of
bytes.  So `roughRoom`, which counts boundaries without drawing them up, is at least the room of a
test for the set.
-/

namespace Highlight

namespace Text

/-! ### Boundaries -/

theorem length_combineFrom_le (f : Bool → Bool → Bool) (fuel : Nat) (inA inB inC : Bool)
    (as bs : List Nat) :
    (combineFrom f fuel inA inB inC as bs).length ≤ as.length + bs.length := by
  have hskip : ∀ {n m : Nat} {c : Bool} {x : Nat} {xs : List Nat}, xs.length ≤ n → n < m →
      (if c then xs else x :: xs).length ≤ m := by
    intro n m c x xs hn hm
    split
    · omega
    · rw [List.length_cons]
      omega
  induction fuel generalizing inA inB inC as bs with
  | zero => simp [combineFrom]
  | succ fuel ih =>
      cases as with
      | nil =>
          cases bs with
          | nil => simp [combineFrom]
          | cons b bs =>
              rw [combineFrom]
              exact hskip (ih _ _ _ [] bs) (by simp)
      | cons a as =>
          cases bs with
          | nil =>
              rw [combineFrom]
              exact hskip (ih _ _ _ as []) (by simp)
          | cons b bs =>
              rw [combineFrom]
              split
              · exact hskip (ih _ _ _ as (b :: bs)) (by simp)
              · split
                · exact hskip (ih _ _ _ (a :: as) bs) (by simp)
                · exact hskip (ih _ _ _ as bs) (by simp; omega)

theorem length_combine_le (f : Bool → Bool → Bool) (as bs : List Nat) :
    (combine f as bs).length ≤ as.length + bs.length :=
  length_combineFrom_le f _ _ _ _ as bs

theorem length_ofPoints_le (ns : List Nat) : (ofPoints ns).length ≤ 2 * ns.length := by
  induction ns with
  | nil => simp [ofPoints]
  | cons n ns ih =>
      have hunion : (ofPoints (n :: ns)).length ≤ 2 + (ofPoints ns).length :=
        length_combine_le (· || ·) [n, n + 1] (ofPoints ns)
      rw [List.length_cons]
      omega

/-- How many code points have a case variant, counted by rows. -/
def variantCount : Nat := 3034

theorem sum_points_le : (caseRows.map fun r => r.points.length).sum ≤ variantCount := by
  have hcount : (caseRows.map fun r => r.points.length) =
      caseRows.map fun r => (r.last - r.first) / r.step + 1 := by
    simp [CaseRow.points]
  rw [hcount]
  decide +kernel

theorem length_variantBoundaries_le (bs : Array Nat) :
    (variantBoundaries bs).length ≤ 2 * variantCount := by
  refine Nat.le_trans (length_ofPoints_le _) (Nat.mul_le_mul_left 2 ?_)
  rw [List.length_mergeSort, List.length_flatMap]
  refine Nat.le_trans (List.sum_le_sum fun r _ => ?_) sum_points_le
  simpa using List.length_filter_le _ _

theorem size_wordBoundaries : wordBoundaries.size = 1592 := by
  simp only [wordBoundaries, Array.size_append]
  decide +kernel

/-! ### Sequences of bytes -/

section

variable {more mark lo hi : Nat}

/-- How many numbers the digits behind the first one make up. -/
def unit (more : Nat) : Nat := Nat.pow 64 (more + 1)

theorem unit_succ (more : Nat) : unit (more + 1) = unit more * 64 := rfl

theorem unit_pos (more : Nat) : 0 < unit more := Nat.pow_pos (by decide)

/-- A sequence of more than one byte starts with one byte in front of a shorter one, or with a range
in front of all there are. -/
theorem mem_byteSequences_succ {s : List ByteRange} (h : s ∈ byteSequences (more + 1) mark lo hi) :
    (∃ r lo' hi' s', s = r :: s' ∧ s' ∈ byteSequences more 128 lo' hi') ∨
      ∃ r, s = r :: List.replicate (more + 1) (128, 191) := by
  simp only [byteSequences] at h
  split at h
  · obtain ⟨s', hs', rfl⟩ := List.mem_map.mp h
    exact Or.inl ⟨_, _, _, s', rfl, hs'⟩
  · simp only [List.mem_append, List.mem_ite_nil_right, List.mem_singleton] at h
    obtain (⟨-, h⟩ | ⟨-, h⟩) | ⟨-, h⟩ := h
    · obtain ⟨s', hs', rfl⟩ := List.mem_map.mp h
      exact Or.inl ⟨_, _, _, s', rfl, hs'⟩
    · exact Or.inr ⟨_, h⟩
    · obtain ⟨s', hs', rfl⟩ := List.mem_map.mp h
      exact Or.inl ⟨_, _, _, s', rfl, hs'⟩

theorem length_of_mem_byteSequences {s : List ByteRange} (h : s ∈ byteSequences more mark lo hi) :
    s.length = more + 1 := by
  induction more generalizing mark lo hi s with
  | zero =>
      obtain rfl := List.mem_singleton.mp h
      rfl
  | succ more ih =>
      rcases mem_byteSequences_succ h with ⟨r, lo', hi', s', rfl, hs'⟩ | ⟨r, rfl⟩
      · rw [List.length_cons, ih hs']
      · simp

/-- Numbers with different first digits take one sequence for those with all that follow their first
digit, and those for the rest of the numbers at both ends. -/
theorem length_byteSequences_succ_le (more mark lo hi : Nat) :
    (byteSequences (more + 1) mark lo hi).length =
        (byteSequences more 128 (lo % unit more) (hi % unit more)).length ∨
      (byteSequences (more + 1) mark lo hi).length ≤
        (if lo % unit more = 0 then 0
          else (byteSequences more 128 (lo % unit more) (unit more - 1)).length) + 1 +
        (if hi % unit more = unit more - 1 then 0
          else (byteSequences more 128 0 (hi % unit more)).length) := by
  have hunit : Nat.pow 64 (more + 1) = unit more := rfl
  simp only [byteSequences, hunit]
  split
  · exact Or.inl (List.length_map _)
  · refine Or.inr ?_
    simp only [List.length_append, apply_ite List.length, List.length_map, List.length_nil,
      List.length_singleton, bne_iff_ne, ite_not]
    split <;> split <;> split <;> omega

/-- The numbers with the same digits in front, from one of them on, take at most a sequence for each
digit. -/
theorem length_byteSequences_upward (more mark lo : Nat) :
    (byteSequences more mark lo (unit more - 1)).length ≤ more + 1 := by
  induction more generalizing mark lo with
  | zero => simp [byteSequences]
  | succ more ih =>
      have hmod : (unit (more + 1) - 1) % unit more = unit more - 1 := by
        have hpos := unit_pos more
        have hsplit : unit (more + 1) - 1 = unit more - 1 + unit more * 63 := by
          rw [unit_succ]
          omega
        rw [hsplit, Nat.add_mul_mod_self_left, Nat.mod_eq_of_lt (by omega)]
      have hlow := ih 128 (lo % unit more)
      rcases length_byteSequences_succ_le more mark lo (unit (more + 1) - 1) with h | h
      · rw [hmod] at h
        omega
      · rw [if_pos hmod] at h
        split at h <;> omega

theorem length_byteSequences_downward (more mark hi : Nat) :
    (byteSequences more mark 0 hi).length ≤ more + 1 := by
  induction more generalizing mark hi with
  | zero => simp [byteSequences]
  | succ more ih =>
      have hhigh := ih 128 (hi % unit more)
      rcases length_byteSequences_succ_le more mark 0 hi with h | h
      · rw [Nat.zero_mod] at h
        omega
      · rw [if_pos (Nat.zero_mod _)] at h
        split at h <;> omega

theorem length_byteSequences_le (more mark lo hi : Nat) :
    (byteSequences more mark lo hi).length ≤ 2 * more + 1 := by
  induction more generalizing mark lo hi with
  | zero => simp [byteSequences]
  | succ more ih =>
      have hlow := length_byteSequences_upward more 128 (lo % unit more)
      have hhigh := length_byteSequences_downward more 128 (hi % unit more)
      have hmid := ih 128 (lo % unit more) (hi % unit more)
      rcases length_byteSequences_succ_le more mark lo hi with h | h
      · omega
      · split at h <;> split at h <;> omega

end

theorem length_sequencesWithin_le (more mark least most lo hi : Nat) :
    (sequencesWithin more mark least most lo hi).length ≤ 2 * more + 1 := by
  unfold sequencesWithin
  split
  · exact length_byteSequences_le _ _ _ _
  · exact Nat.zero_le _

theorem length_of_mem_sequencesWithin {more mark least most lo hi : Nat} {s : List ByteRange}
    (h : s ∈ sequencesWithin more mark least most lo hi) : s.length = more + 1 := by
  unfold sequencesWithin at h
  split at h
  · exact length_of_mem_byteSequences h
  · simp at h

theorem length_encodedRange_le (lo hi : Nat) : (encodedRange lo hi).length ≤ 21 := by
  simp only [encodedRange, List.length_append]
  have h0 := length_sequencesWithin_le 0 0 0 127 lo hi
  have h1 := length_sequencesWithin_le 1 192 128 2047 lo hi
  have h2 := length_sequencesWithin_le 2 224 2048 55295 lo hi
  have h3 := length_sequencesWithin_le 2 224 57344 65535 lo hi
  have h4 := length_sequencesWithin_le 3 240 65536 1114111 lo hi
  omega

theorem length_le_of_mem_encodedRange {lo hi : Nat} {s : List ByteRange}
    (h : s ∈ encodedRange lo hi) : s.length ≤ 4 := by
  simp only [encodedRange, List.mem_append] at h
  obtain (((h | h) | h) | h) | h := h <;> simp [length_of_mem_sequencesWithin h]

theorem length_encoded_le (bs : List Nat) :
    (encoded bs).length ≤ 21 * ((bs.length + 1) / 2) ∧ ∀ s ∈ encoded bs, s.length ≤ 4 := by
  induction bs using encoded.induct with
  | case1 => simp [encoded]
  | case2 lo =>
      have hrange := length_encodedRange_le lo 1114111
      rw [encoded]
      exact ⟨by simpa using hrange, fun s hs => length_le_of_mem_encodedRange hs⟩
  | case3 lo next bs ih =>
      -- A range of characters lies between the first two boundaries.
      rw [encoded, List.length_append]
      have hfirst := length_encodedRange_le lo (next - 1)
      refine ⟨by simp only [List.length_cons]; omega, fun s hs => ?_⟩
      exact (List.mem_append.mp hs).elim length_le_of_mem_encodedRange (ih.2 s)

theorem countShared_le {k : Nat} (before : List ByteRange) {ss : List (List ByteRange)}
    (h : ∀ s ∈ ss, s.length ≤ k) : countShared before ss ≤ k * ss.length := by
  induction ss generalizing before with
  | nil => simp [countShared]
  | cons s ss ih =>
      obtain ⟨hhead, hrest⟩ := List.forall_mem_cons.mp h
      have hcount := ih s hrest
      rw [countShared, List.length_cons, Nat.mul_succ]
      omega

end Text

/-! ### The room of a test -/

/-- At least the room of a test for a set with so many boundaries. -/
def boundaryRoom (n : Nat) : Nat := 2 * stateRoom + 132 * (21 * ((n + 1) / 2))

theorem testRoom_le {bs : List Nat} {n : Nat} (h : bs.length ≤ n) :
    testRoom bs ≤ boundaryRoom n := by
  obtain ⟨hlength, hshort⟩ := Text.length_encoded_le bs
  have hstates := Text.countShared_le [] hshort
  have hmore : 21 * ((bs.length + 1) / 2) ≤ 21 * ((n + 1) / 2) :=
    Nat.mul_le_mul_left 21 (Nat.div_le_div_right (by omega))
  have hite :
      ∀ {c : Prop} [Decidable c] {x y m : Nat}, x ≤ m → y ≤ m → (if c then x else y) ≤ m := by
    intro c _ x y m hx hy
    split <;> assumption
  unfold testRoom boundaryRoom stateRoom
  refine hite ?_ (hite ?_ (hite ?_ ?_)) <;> omega

namespace CharSet

/-- How many boundaries a set has at most. -/
def edges : CharSet → Nat
  | range _ _ => 2
  | word => 1592
  | digit => 142
  | blank => 20
  | points bs => bs.size
  | union a b => a.edges + b.edges
  | inter a b => a.edges + b.edges
  | diff a b => a.edges + b.edges
  | symmDiff a b => a.edges + b.edges
  | compl a => a.edges + 2
  | anyCase (range lo hi) =>
      if lo = hi then 2 * (Text.caseVariants lo).length else 2 + 2 * Text.variantCount
  | anyCase a => a.edges + 2 * Text.variantCount

theorem length_boundaries_le (a : CharSet) : a.boundaries.length ≤ a.edges := by
  have hcombine : ∀ {f as bs n m}, as.length ≤ n → bs.length ≤ m →
      (Text.combine f as bs).length ≤ n + m :=
    fun h h' => Nat.le_trans (Text.length_combine_le _ _ _) (Nat.add_le_add h h')
  induction a with
  | range lo hi =>
      unfold boundaries
      split <;> simp [edges]
  | word => simp [boundaries, edges, Text.size_wordBoundaries]
  | digit => decide +kernel
  | blank => decide +kernel
  | points bs => simp [boundaries, edges]
  | union a b iha ihb => exact hcombine iha ihb
  | inter a b iha ihb => exact hcombine iha ihb
  | diff a b iha ihb => exact hcombine iha ihb
  | symmDiff a b iha ihb => exact hcombine iha ihb
  | compl a ih =>
      rw [edges, Nat.add_comm]
      exact hcombine (Nat.le_refl 2) ih
  | anyCase a ih =>
      have hvariants := Text.length_variantBoundaries_le
      cases a with
      | range lo hi =>
          rw [boundaries, edges]
          split
          · have hpoints := Text.length_ofPoints_le
              (((Text.caseVariants lo).map Char.toNat).mergeSort (· ≤ ·))
            rwa [List.length_mergeSort, List.length_map] at hpoints
          · exact hcombine (Nat.le_refl 2) (hvariants _)
      | _ => exact hcombine ih (hvariants _)

/-- At least the room of a test for the set. -/
def roughRoom (a : CharSet) : Nat := boundaryRoom a.edges

theorem room_range (lo hi : Char) : (range lo hi).room =
    if lo = hi then stateRoom * lo.utf8Size
    else if hi.val < 128 then 2 * stateRoom + 8
    else testRoom (range lo hi).boundaries := rfl

theorem room_eq_testRoom {a : CharSet} (h : ∀ lo hi, a ≠ range lo hi) :
    a.room = testRoom a.boundaries := by
  cases a with
  | range lo hi => exact absurd rfl (h lo hi)
  | compl b => cases b <;> rfl
  | _ => rfl

theorem room_le_roughRoom (a : CharSet) : a.room ≤ a.roughRoom := by
  have htest : testRoom a.boundaries ≤ a.roughRoom := testRoom_le (length_boundaries_le a)
  by_cases h : ∃ lo hi, a = range lo hi
  · obtain ⟨lo, hi, rfl⟩ := h
    have hsize := Char.utf8Size_le_four lo
    have hrough : (range lo hi).roughRoom = 2836 := by
      rw [roughRoom, edges]
      rfl
    rw [room_range]
    split
    · rw [hrough, stateRoom]
      omega
    · split
      · rw [hrough, stateRoom]
        decide
      · exact htest
  · rwa [room_eq_testRoom fun lo hi ha => h ⟨lo, hi, ha⟩]

end CharSet

end Highlight
