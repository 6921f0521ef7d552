import Highlight.Pattern.Reader
import Mathlib.Data.List.Forall2

/-!
# Reading with less room

The room that tests take up has no say in what a pattern means, only in whether it is too large.  So
what can be read when tests are taken to be larger than they are can be read when they are not, and
to the same pattern.  Side by side, both ways of reading come to the same parts, except that the one
with the larger tests may have left out a part that was too large; then it fails in the end.
-/

namespace Highlight.Pattern

/-- A part beside the same part read with larger tests, which may be too large to be written out. -/
structure Part.Leaner (a b : Part) : Prop where
  depth : a.depth = b.depth
  same_or_left_out : (a.pattern = b.pattern ∧ a.room ≤ b.room) ∨
    (maxRoom < b.room ∧ b.pattern.test? = none)

theorem Part.Leaner.refl (a : Part) : a.Leaner a := ⟨rfl, Or.inl ⟨rfl, Nat.le_refl _⟩⟩

/-! ### Several parts -/

section

variable {as bs : List Part}

theorem foldl_max_depth (h : List.Forall₂ Part.Leaner as bs) (d : Nat) :
    as.foldl (fun d a => max d a.depth) d = bs.foldl (fun d a => max d a.depth) d := by
  induction h generalizing d with
  | nil => rfl
  | cons hab _ ih => rw [List.foldl_cons, List.foldl_cons, hab.depth, ih]

theorem le_foldl_room (k n : Nat) (bs : List Part) :
    n ≤ bs.foldl (fun n b => n + k + b.room) n ∧
      ∀ b ∈ bs, b.room ≤ bs.foldl (fun n b => n + k + b.room) n := by
  induction bs generalizing n with
  | nil => simp
  | cons b bs ih =>
      obtain ⟨hstart, hrest⟩ := ih (n + k + b.room)
      rw [List.foldl_cons, List.forall_mem_cons]
      exact ⟨by omega, by omega, hrest⟩

/-- Parts side by side make up the same patterns in less room, or one of them is left out. -/
theorem same_or_left_out (h : List.Forall₂ Part.Leaner as bs) :
    (as.map (·.pattern) = bs.map (·.pattern) ∧ ∀ k n m, n ≤ m →
      as.foldl (fun n a => n + k + a.room) n ≤ bs.foldl (fun n b => n + k + b.room) m) ∨
    ∃ b ∈ bs, maxRoom < b.room ∧ b.pattern.test? = none := by
  induction h with
  | nil => exact Or.inl ⟨rfl, fun _ _ _ hnm => hnm⟩
  | @cons a b as bs hab _ ih =>
      rcases hab.same_or_left_out with ⟨hpattern, hroom⟩ | hleft
      · rcases ih with ⟨hpatterns, hrooms⟩ | ⟨c, hc, hleft⟩
        · refine Or.inl ⟨by rw [List.map_cons, List.map_cons, hpattern, hpatterns], ?_⟩
          intro k n m hnm
          exact hrooms k (n + k + a.room) (m + k + b.room) (by omega)
        · exact Or.inr ⟨c, List.mem_cons_of_mem b hc, hleft⟩
      · exact Or.inr ⟨b, List.mem_cons_self, hleft⟩

theorem test?_concat {ps : List Pattern} {p : Pattern} (hp : p ∈ ps) (h : p.test? = none) :
    (concat ps).test? = none := by
  match ps, hp with
  | [q], hp =>
      obtain rfl := List.mem_singleton.mp hp
      exact h
  | _ :: _ :: _, _ => rfl

theorem Part.leaner_concat {as bs : List (Option Part)}
    (h : List.Forall₂ (Option.Rel Part.Leaner) as bs) :
    (Part.concat as).Leaner (Part.concat bs) := by
  have hparts : List.Forall₂ Part.Leaner (as.filterMap id) (bs.filterMap id) :=
    List.rel_filterMap (fun _ _ h => h) h
  refine ⟨?_, ?_⟩
  · simp only [Part.concat, h.length_eq, foldl_max_depth hparts]
  · have hempty : (as.filterMap id).isEmpty = (bs.filterMap id).isEmpty := by
      rw [Bool.eq_iff_iff, List.isEmpty_iff, List.isEmpty_iff, ← List.length_eq_zero_iff,
        ← List.length_eq_zero_iff, hparts.length_eq]
    rcases same_or_left_out hparts with ⟨hpatterns, hrooms⟩ | ⟨b, hb, hroom, htest⟩
    · refine Or.inl ⟨congrArg Pattern.concat hpatterns, ?_⟩
      simp only [Part.concat, hempty]
      split
      · exact Nat.le_refl _
      · exact hrooms 0 0 0 (Nat.le_refl 0)
    · refine Or.inr ⟨?_, test?_concat (List.mem_map_of_mem hb) htest⟩
      have hnonempty : (bs.filterMap id).isEmpty = false := by
        simpa using List.ne_nil_of_mem hb
      simp only [Part.concat, hnonempty]
      exact Nat.lt_of_lt_of_le hroom ((le_foldl_room 0 0 _).2 b hb)

end

/-! ### Choices -/

section

variable {roomOf roomOf' : CharSet → Nat} {as bs : List Part} {a b : Part}

theorem mapM_test? (as : List Part) :
    (as.mapM fun a => a.pattern.test?) = (as.map (·.pattern)).mapM test? := by
  rw [List.mapM_map]
  rfl

theorem mapM_test?_eq_none (hb : b ∈ bs) (h : b.pattern.test? = none) :
    (bs.mapM fun b => b.pattern.test?) = none := by
  induction bs with
  | nil => simp at hb
  | cons c bs ih =>
      rw [List.mapM_cons]
      rcases List.mem_cons.mp hb with rfl | hb
      · rw [h]
        rfl
      · rw [ih hb]
        cases c.pattern.test? <;> rfl

theorem Part.leaner_choice (hroom : ∀ s, roomOf s ≤ roomOf' s)
    (h : List.Forall₂ Part.Leaner as bs) :
    (Part.choice roomOf as).Leaner (Part.choice roomOf' bs) := by
  match as, bs, h with
  | [], [], _ =>
      exact ⟨rfl, Or.inl ⟨rfl, hroom _⟩⟩
  | [a], [b], .cons hab .nil => exact hab
  | a :: a' :: as, b :: b' :: bs, h =>
      refine ⟨?_, ?_⟩
      · simp only [Part.choice, foldl_max_depth h]
      · rcases same_or_left_out h with ⟨hpatterns, hrooms⟩ | ⟨c, hc, hlarge, htest⟩
        · refine Or.inl ⟨congrArg Pattern.choice hpatterns, ?_⟩
          simp only [Part.choice, Part.roomOfChoice, mapM_test?, hpatterns]
          split
          · exact hroom _
          · exact hrooms 4 _ _ (Nat.le_refl _)
        · refine Or.inr ⟨?_, rfl⟩
          simp only [Part.choice, Part.roomOfChoice, mapM_test?_eq_none hc htest]
          exact Nat.lt_of_lt_of_le hlarge ((le_foldl_room 4 _ _).2 c hc)

/-! ### Repetitions -/

theorem repeatedRoom_mono (nullable : Bool) (least : Nat) (most : Option Nat) {n m : Nat}
    (h : n ≤ m) : repeatedRoom nullable least most n ≤ repeatedRoom nullable least most m := by
  have hmul : ∀ {a b : Nat} (k : Nat), a ≤ b → k * a ≤ k * b := fun k => Nat.mul_le_mul_left k
  unfold repeatedRoom
  split
  · split <;> omega
  · exact Nat.add_le_add_right (hmul _ h) _
  · exact Nat.le_refl _
  · omega
  · exact Nat.add_le_add_right (hmul _ (Nat.add_le_add_right h _)) _
  · split
    · exact hmul _ h
    · exact Nat.add_le_add_right
        (Nat.add_le_add (hmul _ h) (hmul _ (Nat.add_le_add_right h _))) _

/-- Only a repetition that may not come at all takes less room than one round of it. -/
theorem le_repeatedRoom (nullable : Bool) {least : Nat} {most : Option Nat} (room : Nat)
    (h : least = 0 → most ≠ some 0) : room ≤ repeatedRoom nullable least most room := by
  have hmul : ∀ k, room ≤ (k + 1) * room := fun k => Nat.le_mul_of_pos_left _ (Nat.succ_pos k)
  unfold repeatedRoom
  split
  · split <;> omega
  · exact Nat.le_add_right_of_le (hmul _)
  · exact absurd rfl (h rfl)
  · omega
  · rename_i m hzero _
    obtain ⟨k, rfl⟩ : ∃ k, m = k + 1 := Nat.exists_eq_succ_of_ne_zero hzero
    have hround : room + forkRoom ≤ (k + 1) * (room + forkRoom) :=
      Nat.le_mul_of_pos_left _ (Nat.succ_pos k)
    omega
  · split
    · exact hmul _
    · exact Nat.le_add_right_of_le (Nat.le_add_right_of_le (hmul _))

theorem bounds_eq_zero_iff (p : Pattern) (least : Nat) (most : Option Nat) :
    p.bounds least most = (0, some 0) ↔ least = 0 ∧ most = some 0 := by
  unfold bounds
  split
  · cases most with
    | none => simp
    | some m =>
        simp only [Option.getD_some, Prod.mk.injEq, Option.some.injEq]
        omega
  · simp

theorem Part.Leaner.repeated (h : a.Leaner b) (greedy : Bool) (least : Nat) (most : Option Nat) :
    (a.repeated greedy least most).Leaner (b.repeated greedy least most) := by
  refine ⟨congrArg (· + 1) h.depth, ?_⟩
  rcases h.same_or_left_out with ⟨hpattern, hroom⟩ | ⟨hlarge, -⟩
  · simp only [Part.repeated, hpattern]
    have hmono := repeatedRoom_mono b.pattern.nullable (b.pattern.bounds least most).1
      (b.pattern.bounds least most).2 hroom
    by_cases hfull : maxRoom < repeatedRoom b.pattern.nullable (b.pattern.bounds least most).1
        (b.pattern.bounds least most).2 b.room
    · exact Or.inr ⟨hfull, by rw [if_pos hfull]; rfl⟩
    · rw [if_neg hfull, if_neg (by omega)]
      exact Or.inl ⟨rfl, hmono⟩
  · by_cases hzero : least = 0 ∧ most = some 0
    · -- No round may come, so neither part is written out.
      obtain ⟨rfl, rfl⟩ := hzero
      have hbounds : ∀ p : Pattern, p.bounds 0 (some 0) = (0, some 0) :=
        fun p => (bounds_eq_zero_iff p 0 (some 0)).mpr ⟨rfl, rfl⟩
      simp only [Part.repeated, hbounds]
      exact Or.inl ⟨rfl, Nat.le_refl _⟩
    · have hbounds :
        (b.pattern.bounds least most).1 = 0 → (b.pattern.bounds least most).2 ≠ some 0 :=
        fun h0 h1 => hzero ((bounds_eq_zero_iff _ _ _).mp (Prod.ext h0 h1))
      have hfull := Nat.lt_of_lt_of_le hlarge (le_repeatedRoom b.pattern.nullable b.room hbounds)
      refine Or.inr ⟨hfull, ?_⟩
      simp only [Part.repeated]
      rw [if_pos hfull]
      rfl

end

/-! ### What has been read -/

section

variable {roomOf roomOf' : CharSet → Nat}

/-- Groups that are being read, side by side. -/
structure Level.Leaner (l m : Level) : Prop where
  kind : l.kind = m.kind
  flagsAfter : l.flagsAfter = m.flagsAfter
  branches : List.Forall₂ Part.Leaner l.branches m.branches
  items : List.Forall₂ (Option.Rel Part.Leaner) l.items m.items

namespace Level.Leaner

variable {l m : Level}

theorem content (hroom : ∀ s, roomOf s ≤ roomOf' s) (h : l.Leaner m) :
    (l.content roomOf).Leaner (m.content roomOf') :=
  Part.leaner_choice hroom
    (List.forall₂_reverse_iff.mpr (.cons (Part.leaner_concat (List.forall₂_reverse_iff.mpr h.items))
      h.branches))

theorem close (hroom : ∀ s, roomOf s ≤ roomOf' s) (h : l.Leaner m) :
    (l.close roomOf).Leaner (m.close roomOf') := by
  obtain ⟨hdepth, hsame⟩ := h.content hroom
  have hmore : ((l.content roomOf).pattern = (m.content roomOf').pattern ∧
      (l.content roomOf).room + 2 * stateRoom ≤ (m.content roomOf').room + 2 * stateRoom) ∨
      (maxRoom < (m.content roomOf').room + 2 * stateRoom ∧
        (m.content roomOf').pattern.test? = none) :=
    hsame.imp (fun h => ⟨h.1, by omega⟩) fun h => ⟨by omega, h.2⟩
  unfold Level.close
  rw [h.kind]
  cases m.kind with
  | plain => exact ⟨by simp [hdepth], hsame⟩
  | noted => exact ⟨by simp [hdepth], hmore⟩
  | token =>
      exact ⟨by simp [hdepth], hmore.imp (fun h => ⟨congrArg token h.1, h.2⟩) fun h => ⟨h.1, rfl⟩⟩

theorem push (h : l.Leaner m) {a b : Part} (hab : a.Leaner b) : (l.push a).Leaner (m.push b) :=
  ⟨h.kind, h.flagsAfter, h.branches, .cons (.some hab) h.items⟩

theorem split (h : l.Leaner m) : l.split.Leaner m.split :=
  ⟨h.kind, h.flagsAfter,
    .cons (Part.leaner_concat (List.forall₂_reverse_iff.mpr h.items)) h.branches, .nil⟩

end Level.Leaner

namespace Reading

/-- What has been read, side by side. -/
structure Leaner (r s : Reading) : Prop where
  flags : r.flags = s.flags
  names : r.names = s.names
  level : r.level.Leaner s.level
  outer : List.Forall₂ Level.Leaner r.outer s.outer

/-- What comes of reading a part, side by side: the same error, or the same rest of the text. -/
inductive Alike : Except PatternError (Reading × List Char) →
    Except PatternError (Reading × List Char) → Prop
  | error (e : PatternError) : Alike (.error e) (.error e)
  | ok {r s : Reading} (h : r.Leaner s) (cs : List Char) : Alike (.ok (r, cs)) (.ok (s, cs))

theorem Alike.bind {α : Type} (x : Except PatternError α)
    {k k' : α → Except PatternError (Reading × List Char)} (h : ∀ a, Alike (k a) (k' a)) :
    Alike (x >>= k) (x >>= k') := by
  cases x with
  | error e => exact .error e
  | ok a => exact h a

namespace Leaner

variable {r s : Reading}

theorem push (h : r.Leaner s) {a b : Part} (hab : a.Leaner b) : (r.push a).Leaner (s.push b) :=
  ⟨h.flags, h.names, h.level.push hab, h.outer⟩

theorem pushSet (hroom : ∀ s, roomOf s ≤ roomOf' s) (h : r.Leaner s) (set : CharSet) (depth : Nat) :
    (r.pushSet roomOf set depth).Leaner (s.pushSet roomOf' set depth) :=
  h.push ⟨rfl, Or.inl ⟨rfl, hroom set⟩⟩

theorem pushEscape (hroom : ∀ s, roomOf s ≤ roomOf' s) (h : r.Leaner s) (e : Escape) :
    (r.pushEscape roomOf e).Leaner (s.pushEscape roomOf' e) := by
  cases e with
  | literal c =>
      unfold Reading.pushEscape
      rw [h.flags]
      exact h.pushSet hroom _ 0
  | set a => exact h.pushSet hroom a 0
  | look l => exact h.push (.refl _)

theorem openGroup (h : r.Leaner s) (kind : GroupKind) (f : Flags) :
    (r.openGroup kind f).Leaner (s.openGroup kind f) :=
  ⟨rfl, h.names, ⟨rfl, h.flags, .nil, .nil⟩, .cons h.level h.outer⟩

/-- Only the latest parts of the current alternative change. -/
theorem withItems (h : r.Leaner s) (f : Flags) {as bs : List (Option Part)}
    (hitems : List.Forall₂ (Option.Rel Part.Leaner) as bs) :
    Leaner { r with flags := f, level := { r.level with items := as } }
      { s with flags := f, level := { s.level with items := bs } } :=
  ⟨rfl, h.names, ⟨h.level.kind, h.level.flagsAfter, h.level.branches, hitems⟩, h.outer⟩

theorem named (h : r.Leaner s) (f : Flags) (names : List String) :
    Leaner { r with flags := f, names := names } { s with flags := f, names := names } :=
  ⟨rfl, rfl, h.level, h.outer⟩

theorem openNamed (h : r.Leaner s) (cs : List Char) : Alike (r.openNamed cs) (s.openNamed cs) := by
  unfold Reading.openNamed
  rw [h.names, h.flags]
  dsimp only
  split
  · exact .error _
  · split
    · exact .error _
    · split
      · exact .error _
      · exact .ok ((h.named _ _).openGroup _ _) _

theorem readFlags (h : r.Leaner s) (on : Bool) (seen : List Char) (f : Flags) (cs : List Char) :
    Alike (r.readFlags on seen f cs) (s.readFlags on seen f cs) := by
  induction cs generalizing on seen f with
  | nil => exact .error _
  | cons c cs ih =>
      unfold Reading.readFlags
      split
      · exact .error _
      · split
        · exact .error _
        · exact .ok (h.openGroup _ _) _
      · split
        · exact .error _
        · split
          · exact .error _
          · exact .ok (h.withItems f (.cons .none h.level.items)) _
      · rename_i heq
        obtain ⟨-, rfl⟩ := List.cons.inj heq
        split
        · exact ih _ _ _
        · exact .error _
      · rename_i heq
        obtain ⟨rfl, rfl⟩ := List.cons.inj heq
        split
        · exact .error _
        · cases setFlag on f _ with
          | error e => exact .error e
          | ok f' => exact ih _ _ _

theorem readGroup (h : r.Leaner s) (cs : List Char) : Alike (r.readGroup cs) (s.readGroup cs) := by
  unfold Reading.readGroup
  rw [h.flags]
  split
  · exact .error _
  · exact .error _
  · exact .error _
  · exact .error _
  · exact h.openNamed _
  · exact h.openNamed _
  · exact h.readFlags _ _ _ _
  · exact .ok (h.openGroup _ _) _

theorem repeatLast (h : r.Leaner s) (least : Nat) (most : Option Nat) (cs : List Char) :
    Alike (r.repeatLast least most cs) (s.repeatLast least most cs) := by
  have hitems := h.level.items
  unfold Reading.repeatLast
  rw [h.flags]
  generalize r.level.items = as at hitems
  generalize s.level.items = bs at hitems
  cases hitems with
  | nil => exact .error _
  | cons hab hrest =>
      cases hab with
      | none => exact .error _
      | some hab => exact .ok (h.withItems s.flags (.cons (.some (hab.repeated _ _ _)) hrest)) _

theorem readCounted (h : r.Leaner s) (cs : List Char) :
    Alike (r.readCounted cs) (s.readCounted cs) := by
  unfold Reading.readCounted
  rw [h.flags]
  refine .bind _ fun (least, rest) => ?_
  dsimp only
  have hrepeat : ∀ (most : Option Nat) (rest : List Char), Alike
      (if most.any (· < least) then throw .badCount else r.repeatLast least most rest)
      (if most.any (· < least) then throw .badCount else s.repeatLast least most rest) := by
    intro most rest
    split
    · exact .error _
    · exact h.repeatLast _ _ _
  split
  · split
    · refine .bind _ fun (most, rest) => ?_
      split
      · exact hrepeat _ _
      · exact .error _
    · refine .bind _ fun (n, rest) => .bind _ fun (most, rest) => ?_
      split
      · exact hrepeat _ _
      · exact .error _
  · refine .bind _ fun (most, rest) => ?_
    split
    · exact hrepeat _ _
    · exact .error _

theorem split (h : r.Leaner s) (f : Flags) :
    Leaner { r with flags := f, level := r.level.split }
      { s with flags := f, level := s.level.split } :=
  ⟨rfl, h.names, h.level.split, h.outer⟩

theorem leave (hroom : ∀ s, roomOf s ≤ roomOf' s) (h : r.Leaner s) {o o' : Level}
    {outer outer' : List Level} (ho : o.Leaner o')
    (houter : List.Forall₂ Level.Leaner outer outer') :
    Leaner
      { r with flags := r.level.flagsAfter, level := o.push (r.level.close roomOf), outer := outer }
      { s with
        flags := s.level.flagsAfter, level := o'.push (s.level.close roomOf'), outer := outer' } :=
  ⟨h.level.flagsAfter, h.names, ho.push (h.level.close hroom), houter⟩

theorem closeGroup (hroom : ∀ s, roomOf s ≤ roomOf' s) (h : r.Leaner s) (cs : List Char) :
    Alike (do return (← r.closeGroup roomOf, cs)) (do return (← s.closeGroup roomOf', cs)) := by
  have houter := h.outer
  unfold Reading.closeGroup
  generalize r.outer = as at houter
  generalize s.outer = bs at houter
  cases houter with
  | nil => exact .error _
  | cons ho houter => exact .ok (h.leave hroom ho houter) cs

theorem step (hroom : ∀ s, roomOf s ≤ roomOf' s) (h : r.Leaner s) (c : Char) (cs : List Char) :
    Alike (r.step roomOf c cs) (s.step roomOf' c cs) := by
  unfold Reading.step
  rw [h.flags]
  split
  · exact h.readGroup cs
  · exact h.closeGroup hroom cs
  · exact .ok (h.split s.flags) cs
  · exact .bind _ fun (a, rest) => .ok (h.pushSet hroom _ _) rest
  · exact h.repeatLast _ _ _
  · exact h.repeatLast _ _ _
  · exact h.repeatLast _ _ _
  · exact h.readCounted cs
  · exact .bind _ fun (e, rest) => .ok (h.pushEscape hroom e) rest
  · split
    · exact .error _
    · exact .ok (h.pushSet hroom _ 0) cs
  · exact .ok (h.push (.refl _)) cs
  · exact .ok (h.push (.refl _)) cs
  · exact .ok (h.pushEscape hroom _) cs

/-- If reading succeeds with the larger tests, it does with the smaller ones. -/
theorem readAll (hroom : ∀ s, roomOf s ≤ roomOf' s) (h : r.Leaner s) {fuel : Nat} {cs : List Char}
    {s' : Reading} (hread : Reading.readAll roomOf' fuel s cs = .ok s') :
    ∃ r', Reading.readAll roomOf fuel r cs = .ok r' ∧ r'.Leaner s' := by
  induction fuel generalizing r s cs with
  | zero =>
      obtain rfl := Except.ok.inj hread
      exact ⟨r, rfl, h⟩
  | succ fuel ih =>
      rw [Reading.readAll] at hread ⊢
      rw [h.flags]
      split at hread
      · obtain rfl := Except.ok.inj hread
        exact ⟨r, rfl, h⟩
      · rename_i c cs hcs
        have hstep := h.step hroom c cs
        generalize r.step roomOf c cs = res at hstep
        generalize hres : s.step roomOf' c cs = res' at hstep hread
        cases hstep with
        | error e => simp [bind, Except.bind] at hread
        | ok hnext rest => exact ih hnext hread

theorem finish (hroom : ∀ s, roomOf s ≤ roomOf' s) (h : r.Leaner s) {p : Pattern}
    (hfinish : s.finish roomOf' = .ok p) : r.finish roomOf = .ok p := by
  have houter := h.outer
  unfold Reading.finish at hfinish ⊢
  generalize r.outer = as at houter
  generalize s.outer = bs at houter hfinish
  cases houter with
  | cons ho houter => simp at hfinish
  | nil =>
      obtain ⟨hdepth, hsame⟩ := h.level.content hroom
      dsimp only at hfinish ⊢
      rw [hdepth]
      split at hfinish
      · simp at hfinish
      · rename_i hshallow
        split at hfinish
        · simp at hfinish
        · rename_i hsmall
          obtain ⟨hpattern, hle⟩ := hsame.resolve_right fun hlarge => by omega
          rw [if_neg hshallow, if_neg (by omega), hpattern]
          exact hfinish

end Leaner

end Reading

/-- What can be read with larger tests than they are is read to the same pattern. -/
theorem ofChars_of_larger (hroom : ∀ s, roomOf s ≤ roomOf' s) {cs : List Char} {p : Pattern}
    (h : ofChars roomOf' cs = .ok p) : ofChars roomOf cs = .ok p := by
  unfold ofChars at h ⊢
  cases hread : Reading.readAll roomOf' cs.length {} cs with
  | error e => simp [hread, bind, Except.bind] at h
  | ok s =>
      have hstart : Reading.Leaner {} {} := ⟨rfl, rfl, ⟨rfl, rfl, .nil, .nil⟩, .nil⟩
      obtain ⟨r, hr, hleaner⟩ := hstart.readAll hroom hread
      rw [hr]
      exact hleaner.finish hroom (by simpa [hread, bind, Except.bind] using h)

end

end Highlight.Pattern
