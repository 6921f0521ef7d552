import Highlight.Proofs.ChangeSet.Words

/-!
# The normal form of change sets

Whatever the calls are that build a change set, its runs have positive lengths, neighbours differ in
kind, and between two retained runs there is at most one insertion with at most one deletion after
it.  The outline of a list of calls says what is retained and how much is deleted and inserted in
between; two lists of calls build the same change set if and only if they have the same outline.
-/

namespace Highlight

/-- Whether a run may stand in front of some runs. -/
def Run.Fits (r : Run) : List Run → Prop
  | [] => True
  | s :: _ => r.kind ≠ s.kind ∧ (r.kind = .delete → s.kind ≠ .insert)

namespace ChangeSet

/-- The normal form of a list of runs. -/
structure Normal (rs : List Run) : Prop where
  positive : ∀ r ∈ rs, 0 < r.length
  differing : rs.IsChain fun r s => r.kind ≠ s.kind
  insert_first : rs.IsChain fun r s => r.kind = .delete → s.kind ≠ .insert

theorem normal_nil : Normal [] where
  positive := by simp
  differing := .nil
  insert_first := .nil

theorem normal_cons_iff {r : Run} {rs : List Run} :
    Normal (r :: rs) ↔ 0 < r.length ∧ r.Fits rs ∧ Normal rs := by
  constructor
  · rintro ⟨hpos, hdiff, hfirst⟩
    obtain ⟨hr, hrs⟩ := List.forall_mem_cons.mp hpos
    cases rs with
    | nil => exact ⟨hr, trivial, normal_nil⟩
    | cons s rs =>
        rw [List.isChain_cons_cons] at hdiff hfirst
        exact ⟨hr, ⟨hdiff.1, hfirst.1⟩, ⟨hrs, hdiff.2, hfirst.2⟩⟩
  · rintro ⟨hr, hfits, hpos, hdiff, hfirst⟩
    refine ⟨List.forall_mem_cons.mpr ⟨hr, hpos⟩, ?_, ?_⟩
    · cases rs with
      | nil => exact .singleton r
      | cons s rs => exact List.isChain_cons_cons.mpr ⟨hfits.1, hdiff⟩
    · cases rs with
      | nil => exact .singleton r
      | cons s rs => exact List.isChain_cons_cons.mpr ⟨hfits.2, hfirst⟩

theorem normal_singleton {r : Run} (hr : 0 < r.length) : Normal [r] :=
  normal_cons_iff.mpr ⟨hr, trivial, normal_nil⟩

/-! ### Calls keep the normal form -/

theorem Normal.addRetain {n : Nat} (hn : 0 < n) {rs : List Run} (h : Normal rs) :
    Normal (addRetain n rs) := by
  fun_induction ChangeSet.addRetain n rs with
  | case1 => exact normal_singleton hn
  | case2 m => exact normal_singleton (Nat.add_pos_right m hn)
  | case3 r rs hne ih =>
      obtain ⟨hr, hfits, hrs⟩ := normal_cons_iff.mp h
      refine normal_cons_iff.mpr ⟨hr, ?_, ih hrs⟩
      -- the first run changes only if there was none
      fun_cases ChangeSet.addRetain n rs with
      | case1 => cases r <;> simp_all [Run.Fits, Run.kind]
      | case2 m => exact hfits
      | case3 s rs => exact hfits

theorem Normal.addDelete {n : Nat} (hn : 0 < n) {rs : List Run} (h : Normal rs) :
    Normal (addDelete n rs) := by
  fun_induction ChangeSet.addDelete n rs with
  | case1 => exact normal_singleton hn
  | case2 m => exact normal_singleton (Nat.add_pos_right m hn)
  | case3 r rs hne ih =>
      obtain ⟨hr, hfits, hrs⟩ := normal_cons_iff.mp h
      refine normal_cons_iff.mpr ⟨hr, ?_, ih hrs⟩
      fun_cases ChangeSet.addDelete n rs with
      | case1 => cases r <;> simp_all [Run.Fits, Run.kind]
      | case2 m => exact hfits
      | case3 s rs => exact hfits

theorem Normal.addInsert {n : Nat} (hn : 0 < n) {rs : List Run} (h : Normal rs) :
    Normal (addInsert n rs) := by
  fun_induction ChangeSet.addInsert n rs with
  | case1 => exact normal_singleton hn
  | case2 m => exact normal_singleton (Nat.add_pos_right m hn)
  | case3 m d =>
      obtain ⟨-, hfits, hd⟩ := normal_cons_iff.mp h
      exact normal_cons_iff.mpr ⟨Nat.add_pos_right m hn, hfits, hd⟩
  | case4 d => exact normal_cons_iff.mpr ⟨hn, by simp [Run.Fits, Run.kind], h⟩
  | case5 r rs hinsert hboth hdelete ih =>
      obtain ⟨hr, hfits, hrs⟩ := normal_cons_iff.mp h
      refine normal_cons_iff.mpr ⟨hr, ?_, ih hrs⟩
      fun_cases ChangeSet.addInsert n rs with
      | case1 => cases r <;> simp_all [Run.Fits, Run.kind]
      | case2 m => exact hfits
      | case3 m d => exact hfits
      | case4 d => cases r <;> simp_all [Run.Fits, Run.kind]
      | case5 s rs => exact hfits

theorem Normal.add {c : ChangeSet} (h : Normal c.runs) (r : Run) : Normal (c.add r).runs := by
  cases r with
  | retain n =>
      simp only [ChangeSet.add, retain]
      split
      · exact h
      · exact h.addRetain (Nat.pos_of_ne_zero ‹_›)
  | delete n =>
      simp only [ChangeSet.add, delete]
      split
      · exact h
      · exact h.addDelete (Nat.pos_of_ne_zero ‹_›)
  | insert n =>
      simp only [ChangeSet.add, insert]
      split
      · exact h
      · exact h.addInsert (Nat.pos_of_ne_zero ‹_›)

theorem normal_ofRuns (rs : List Run) : Normal (ofRuns rs).runs := by
  induction rs using List.reverseRecOn with
  | nil => exact normal_nil
  | append_singleton rs r ih =>
      rw [ofRuns_concat]
      exact ih.add r

/-! ### Outlines -/

/-- What is deleted and inserted between two retained runs. -/
structure Gap where
  deleted : Nat := 0
  inserted : Nat := 0
  deriving DecidableEq, Repr

/-- What is deleted and inserted before anything is retained, and then each retained length with
what is deleted and inserted after it. -/
structure Outline where
  first : Gap := {}
  rest : List (Nat × Gap) := []
  deriving DecidableEq, Repr

/-- Makes one run of neighbours that are retained. -/
def mergeRetains : List Run → List Run
  | [] => []
  | .retain n :: rs =>
      match mergeRetains rs with
      | .retain m :: more => .retain (n + m) :: more
      | more => .retain n :: more
  | r :: rs => r :: mergeRetains rs

/-- Cuts runs at those that are retained. -/
def cut : List Run → Outline
  | [] => {}
  | .retain n :: rs => ⟨{}, (n, (cut rs).first) :: (cut rs).rest⟩
  | .delete n :: rs =>
      ⟨{ (cut rs).first with deleted := n + (cut rs).first.deleted }, (cut rs).rest⟩
  | .insert n :: rs =>
      ⟨{ (cut rs).first with inserted := n + (cut rs).first.inserted }, (cut rs).rest⟩

/-- The outline of calls: those without length are dropped, neighbours that are retained are merged,
and the rest is cut at the retained runs. -/
def outline (rs : List Run) : Outline :=
  cut (mergeRetains (rs.filter fun r => decide (0 < r.length)))

/-- The outline of one call more in front. -/
def Outline.push (o : Outline) : Run → Outline
  | .retain n =>
      if n = 0 then o
      else if o.first = {} then
        match o.rest with
        | [] => ⟨{}, [(n, {})]⟩
        | (m, g) :: more => ⟨{}, (n + m, g) :: more⟩
      else ⟨{}, (n, o.first) :: o.rest⟩
  | .delete n => ⟨{ o.first with deleted := n + o.first.deleted }, o.rest⟩
  | .insert n => ⟨{ o.first with inserted := n + o.first.inserted }, o.rest⟩

theorem positive_mergeRetains {rs : List Run} (h : ∀ r ∈ rs, 0 < r.length) :
    ∀ r ∈ mergeRetains rs, 0 < r.length := by
  fun_induction mergeRetains rs with
  | case1 => exact h
  | case2 n rs m more heq ih =>
      obtain ⟨hn, hrs⟩ := List.forall_mem_cons.mp h
      obtain ⟨-, hmore⟩ := List.forall_mem_cons.mp (heq ▸ ih hrs)
      exact List.forall_mem_cons.mpr ⟨Nat.add_pos_left hn m, hmore⟩
  | case3 n rs _ ih =>
      obtain ⟨hn, hrs⟩ := List.forall_mem_cons.mp h
      exact List.forall_mem_cons.mpr ⟨hn, ih hrs⟩
  | case4 r rs _ ih =>
      obtain ⟨hr, hrs⟩ := List.forall_mem_cons.mp h
      exact List.forall_mem_cons.mpr ⟨hr, ih hrs⟩

theorem cut_mergeRetains_retain {n : Nat} (hn : n ≠ 0) {rs : List Run}
    (h : ∀ r ∈ rs, 0 < r.length) :
    cut (mergeRetains (.retain n :: rs)) = (cut (mergeRetains rs)).push (.retain n) := by
  have hpos := positive_mergeRetains h
  rw [mergeRetains]
  cases hrs : mergeRetains rs with
  | nil => simp [cut, Outline.push, hn]
  | cons s more =>
      have hs : s.length ≠ 0 := Nat.ne_of_gt (hpos s (by simp [hrs]))
      -- a deletion or an insertion keeps the retained runs apart
      cases s <;> simp_all [cut, Outline.push, Run.length]

theorem outline_cons (r : Run) (rs : List Run) : outline (r :: rs) = (outline rs).push r := by
  by_cases hr : r.length = 0
  · cases r <;> simp_all [outline, Outline.push, Run.length]
  · have hkept : ∀ s ∈ rs.filter fun r => decide (0 < r.length), 0 < s.length := by simp
    rw [outline, List.filter_cons_of_pos (by simpa using Nat.pos_of_ne_zero hr), outline]
    cases r with
    | retain n => exact cut_mergeRetains_retain hr hkept
    | delete n => rfl
    | insert n => rfl

theorem Outline.push_retain_add (o : Outline) (m n : Nat) :
    o.push (.retain (m + n)) = (o.push (.retain n)).push (.retain m) := by
  by_cases hm : m = 0 <;> by_cases hn : n = 0 <;> simp [push, hm, hn]
  by_cases hfirst : o.first = {} <;> cases hrest : o.rest <;> simp [hfirst, Nat.add_assoc]

theorem lawful_outline : Lawful outline where
  cons r rs rs' h := by rw [outline_cons, outline_cons, h]
  of_empty r rs h := by simp [outline, h]
  retain_add m n rs := by simp only [outline_cons, Outline.push_retain_add]
  delete_add m n rs := by simp only [outline_cons, Outline.push, Nat.add_assoc]
  insert_add m n rs := by simp only [outline_cons, Outline.push, Nat.add_assoc]
  delete_insert m n rs := by simp only [outline_cons, Outline.push]

/-! ### Runs from outlines -/

/-- The runs that an outline stands for. -/
def Gap.runs (g : Gap) : List Run :=
  (if g.inserted = 0 then [] else [.insert g.inserted]) ++
    if g.deleted = 0 then [] else [.delete g.deleted]

def Outline.runs (o : Outline) : List Run :=
  o.first.runs ++ o.rest.flatMap fun part => .retain part.1 :: part.2.runs

theorem filter_of_normal {rs : List Run} (h : Normal rs) :
    (rs.filter fun r => decide (0 < r.length)) = rs :=
  List.filter_eq_self.mpr fun r hr => decide_eq_true (h.positive r hr)

theorem mergeRetains_of_normal {rs : List Run} (h : Normal rs) : mergeRetains rs = rs := by
  induction rs with
  | nil => rfl
  | cons r rs ih =>
      obtain ⟨-, hfits, hrs⟩ := normal_cons_iff.mp h
      cases r with
      | retain n =>
          rw [mergeRetains, ih hrs]
          cases rs with
          | nil => rfl
          | cons s rs => cases s <;> simp_all [Run.Fits, Run.kind]
      | delete n => rw [mergeRetains, ih hrs]; simp
      | insert n => rw [mergeRetains, ih hrs]; simp

/-- What follows a deletion starts with a retained run, if with any. -/
theorem first_of_delete {n : Nat} {rs : List Run} (h : Run.Fits (.delete n) rs) :
    (cut rs).first = {} := by
  cases rs with
  | nil => rfl
  | cons s rs => cases s <;> simp_all [Run.Fits, Run.kind, cut]

theorem inserted_of_insert {n : Nat} {rs : List Run} (h : Run.Fits (.insert n) rs)
    (hrs : Normal rs) : (cut rs).first.inserted = 0 := by
  cases rs with
  | nil => rfl
  | cons s rs =>
      cases s with
      | retain m => rfl
      | delete m => simp [cut, first_of_delete (normal_cons_iff.mp hrs).2.1]
      | insert m => simp [Run.Fits, Run.kind] at h

/-- Runs in normal form can be read off where they are cut. -/
theorem runs_cut_of_normal {rs : List Run} (h : Normal rs) : (cut rs).runs = rs := by
  induction rs with
  | nil => rfl
  | cons r rs ih =>
      obtain ⟨hr, hfits, hrs⟩ := normal_cons_iff.mp h
      have hlength : r.length ≠ 0 := Nat.ne_of_gt hr
      have htail := ih hrs
      cases r with
      | retain n =>
          nth_rewrite 2 [← htail]
          simp [cut, Outline.runs, Gap.runs]
      | delete n =>
          have hfirst := first_of_delete hfits
          nth_rewrite 2 [← htail]
          simp_all [cut, Outline.runs, Gap.runs, Run.length]
      | insert n =>
          have hinserted := inserted_of_insert hfits hrs
          nth_rewrite 2 [← htail]
          simp_all [cut, Outline.runs, Gap.runs, Run.length]

theorem runs_ofRuns (rs : List Run) : (ofRuns rs).runs = (outline rs).runs := by
  have hnormal := normal_ofRuns rs
  rw [← lawful_outline.ofRuns rs, outline, filter_of_normal hnormal, mergeRetains_of_normal hnormal,
    runs_cut_of_normal hnormal]

theorem ofRuns_eq_of_runs {rs rs' : List Run} (h : (ofRuns rs).runs = (ofRuns rs').runs) :
    ofRuns rs = ofRuns rs' := by
  obtain ⟨hbefore, hafter⟩ := sizes_eq_of_runs rs
  obtain ⟨hbefore', hafter'⟩ := sizes_eq_of_runs rs'
  rw [h] at hbefore hafter
  cases hc : ofRuns rs
  cases hc' : ofRuns rs'
  simp_all

theorem ofRuns_eq_iff {rs rs' : List Run} : ofRuns rs = ofRuns rs' ↔ outline rs = outline rs' := by
  constructor
  · intro h
    rw [← lawful_outline.ofRuns rs, h, lawful_outline.ofRuns]
  · intro h
    apply ofRuns_eq_of_runs
    rw [runs_ofRuns, h, runs_ofRuns]

/-- The runs of a change set, taken as calls, build it again. -/
theorem ofRuns_runs (rs : List Run) : ofRuns (ofRuns rs).runs = ofRuns rs :=
  ofRuns_eq_iff.mpr (lawful_outline.ofRuns rs)

/-- Deletions and insertions in front add to what is deleted and inserted first. -/
theorem outline_append {xs : List Run} (h : ∀ r ∈ xs, r.kind ≠ .retain) (back : List Run) :
    outline (xs ++ back) =
      ⟨⟨total .delete xs + (outline back).first.deleted,
        total .insert xs + (outline back).first.inserted⟩, (outline back).rest⟩ := by
  induction xs with
  | nil => simp
  | cons r xs ih =>
      obtain ⟨hr, hxs⟩ := List.forall_mem_cons.mp h
      rw [List.cons_append, outline_cons, ih hxs]
      cases r with
      | retain n => simp [Run.kind] at hr
      | delete n => simp [Outline.push, Run.kind, Run.length, Nat.add_assoc]
      | insert n => simp [Outline.push, Run.kind, Run.length, Nat.add_assoc]

theorem ofRuns_congr (front back : List Run) {xs ys : List Run} (hxs : ∀ r ∈ xs, r.kind ≠ .retain)
    (hys : ∀ r ∈ ys, r.kind ≠ .retain) (hdelete : total .delete xs = total .delete ys)
    (hinsert : total .insert xs = total .insert ys) :
    ofRuns (front ++ (xs ++ back)) = ofRuns (front ++ (ys ++ back)) := by
  apply ofRuns_eq_iff.mpr
  apply lawful_outline.append front
  rw [outline_append hxs, outline_append hys, hdelete, hinsert]

theorem buildInWords_congr {rs rs' : List Run} (h : ofRuns rs = ofRuns rs') :
    buildInWords rs = buildInWords rs' := by
  have hsized : SizedInWords rs ↔ SizedInWords rs' := by
    rw [SizedInWords, SizedInWords, ← (sizes_ofRuns rs).1, ← (sizes_ofRuns rs).2, h,
      (sizes_ofRuns rs').1, (sizes_ofRuns rs').2]
  rw [buildInWords_eq, buildInWords_eq, h, if_congr hsized rfl rfl]

/-- The calls keep a unique normal form.  In words they build what they build in numbers, or there
is a fault because a size of that is no word.  In what is built, runs are of positive length,
neighbours differ in kind, and an insertion does not follow a deletion; the sizes are the lengths
that are kept and deleted, and kept and inserted.  The same change set comes from the calls that,
cut at what they retain, retain the same lengths and delete and insert as much in between, in
whatever order and pieces. -/
theorem one_normal_form_for_each_outline (calls calls' : List Run) :
    (buildInWords calls =
      if oldLength calls ≤ maxPosition ∧ newLength calls ≤ maxPosition then .ok (ofRuns calls)
      else .error .overflow) ∧
    (∀ c, buildInWords calls = .ok c →
      ((∀ r ∈ c.runs, 0 < r.length) ∧ c.runs.IsChain (fun r s => r.kind ≠ s.kind) ∧
        c.runs.IsChain (fun r s => r.kind = .delete → s.kind ≠ .insert)) ∧
      (c.sizeBefore = total .retain c.runs + total .delete c.runs ∧
        c.sizeAfter = total .retain c.runs + total .insert c.runs ∧
        ∀ k, total k c.runs = total k calls) ∧
      (buildInWords calls' = .ok c ↔ outline calls = outline calls')) ∧
    (outline calls = outline calls' → buildInWords calls = buildInWords calls') ∧
    ∀ front xs ys back, (∀ r ∈ xs, r.kind ≠ .retain) → (∀ r ∈ ys, r.kind ≠ .retain) →
      total .delete xs = total .delete ys → total .insert xs = total .insert ys →
      buildInWords (front ++ (xs ++ back)) = buildInWords (front ++ (ys ++ back)) := by
  have hsame : outline calls = outline calls' → buildInWords calls = buildInWords calls' :=
    fun h => buildInWords_congr (ofRuns_eq_iff.mpr h)
  refine ⟨buildInWords_eq calls, ?_, hsame, ?_⟩
  · intro c hc
    obtain ⟨-, rfl⟩ := buildInWords_eq_ok_iff.mp hc
    obtain ⟨hpositive, hdiffering, hfirst⟩ := normal_ofRuns calls
    obtain ⟨hbefore, hafter⟩ := sizes_eq_of_runs calls
    refine ⟨⟨hpositive, hdiffering, hfirst⟩,
      ⟨hbefore, hafter, fun k => (lawful_total k).ofRuns calls⟩, ?_, fun h => hsame h ▸ hc⟩
    intro hc'
    exact ofRuns_eq_iff.mp (buildInWords_eq_ok_iff.mp hc').2
  · intro front xs ys back hxs hys hdelete hinsert
    exact buildInWords_congr (ofRuns_congr front back hxs hys hdelete hinsert)

/-- Three characters give way to four, at once or in pieces. -/
theorem replacement_in_pieces :
    let pieces : List Run := [.delete 1, .insert 3, .retain 0, .delete 2, .insert 1]
    let whole : List Run := [.insert 4, .delete 3]
    let c : ChangeSet := ⟨[.retain 2, .insert 4, .delete 3, .retain 5], 10, 11⟩
    buildInWords (.retain 2 :: (whole ++ [.retain 5])) = .ok c ∧
      buildInWords (.retain 2 :: (pieces ++ [.retain 1, .retain 4])) = .ok c ∧
      buildInWords ([.retain 2] ++ (pieces.eraseIdx 2 ++ [.retain 5])) =
        buildInWords ([.retain 2] ++ (whole ++ [.retain 5])) := by
  intro pieces whole c
  obtain ⟨hbuilt, hall, -⟩ := one_normal_form_for_each_outline (.retain 2 :: (whole ++ [.retain 5]))
    (.retain 2 :: (pieces ++ [.retain 1, .retain 4]))
  have hc : buildInWords (.retain 2 :: (whole ++ [.retain 5])) = .ok c :=
    hbuilt.trans (if_pos (by decide))
  refine ⟨hc, (hall c hc).2.2.mpr (by decide), ?_⟩
  exact (one_normal_form_for_each_outline [] []).2.2.2 _ _ _ _ (by decide) (by decide) (by decide)
    (by decide)

end ChangeSet

end Highlight
