import Highlight.Proofs.Grammar.Cursors
import Highlight.Proofs.Pattern.WholeWords
import Mathlib.Data.List.Sort

/-!
# Rules for lists of words

A scan by a tree of one rule searches in every round, since its last token always lies behind the
place: so it sweeps over the text, each search from the end of the token before it.  Where no token
of a match starts inside another one, no sweep misses any.  For a list of words this says that the
tokens are the words of the text that are in the list, whatever their order in it.
-/

namespace Highlight

namespace Pattern

/-- These are what searches find one after the other, the first from `p` on and each further one
from the end of the token before it. -/
inductive Sweep (a : Pattern) (hay : Array Char) : Nat → List Found → Prop
  | done {p : Nat} (hnone : a.findToken hay p = none) : Sweep a hay p []
  | found {p : Nat} {f : Found} {fs : List Found} (hf : a.findToken hay p = some f)
      (hrest : Sweep a hay f.stop fs) : Sweep a hay p (f :: fs)

variable {a : Pattern} {hay : Array Char} {p : Nat} {fs : List Found}

theorem exists_sweep (a : Pattern) (hay : Array Char) (p : Nat) (hp : p ≤ hay.size) :
    ∃ fs, a.Sweep hay p fs ∧ p + fs.length ≤ hay.size := by
  cases hfind : a.findToken hay p with
  | none => exact ⟨[], .done hfind, hp⟩
  | some f =>
      obtain ⟨hstart, hlt, hstop⟩ : f.Fits p hay.size := fits_of_findToken hfind
      obtain ⟨fs, hsweep, hlength⟩ := exists_sweep a hay f.stop hstop
      refine ⟨f :: fs, .found hfind hsweep, ?_⟩
      rw [List.length_cons]
      omega
  termination_by hay.size - p

/-- No token of a match starts behind the start of another one and in front of its end. -/
def Clear (a : Pattern) (hay : Array Char) : Prop :=
  ∀ m f, a.tokenAt hay m = some f → ∀ m', m < m' → m' < f.stop → a.tokenAt hay m' = none

namespace Sweep

theorem le_start (h : a.Sweep hay p fs) : ∀ f ∈ fs, p ≤ f.start := by
  induction h with
  | done => simp
  | found hf _ ih =>
      obtain ⟨hstart, hlt, -⟩ := fits_of_findToken hf
      refine List.forall_mem_cons.mpr ⟨hstart, fun g hg => ?_⟩
      have hlater := ih g hg
      omega

theorem apart (h : a.Sweep hay p fs) : fs.Pairwise fun f g => f.stop ≤ g.start := by
  induction h with
  | done => exact .nil
  | found _ hrest ih => exact .cons hrest.le_start ih

/-- A sweep misses no token. -/
theorem mem_iff (hclear : a.Clear hay) (h : a.Sweep hay p fs) (g : Found) :
    g ∈ fs ↔ p ≤ g.matchStart ∧ g.matchStart ≤ hay.size ∧ a.tokenAt hay g.matchStart = some g := by
  induction h with
  | done hnone =>
      simp only [List.not_mem_nil, false_iff]
      rintro ⟨hp, hsize, hat⟩
      simp [firstToken_of_findToken hnone _ hp hsize] at hat
  | @found p f fs hf _ ih =>
      obtain ⟨hp, hsize, hat, hbefore⟩ := firstToken_of_findToken hf
      obtain ⟨hstart, hlt, -⟩ := fits_of_findToken hf
      rw [List.mem_cons, ih]
      constructor
      · rintro (rfl | ⟨hstop, hrest⟩)
        · exact ⟨hp, hsize, hat⟩
        · exact ⟨by omega, hrest⟩
      · rintro ⟨hp', hsize', hat'⟩
        rcases Nat.lt_trichotomy g.matchStart f.matchStart with hlt' | heq | hlt'
        · simp [hbefore _ hp' hlt'] at hat'
        · rw [heq, hat] at hat'
          exact Or.inl (Option.some.inj hat').symm
        · refine Or.inr ⟨Nat.le_of_not_lt fun hinside => ?_, hsize', hat'⟩
          simp [hclear _ f hat _ hlt' hinside] at hat'

end Sweep

end Pattern

/-- The token for what the one rule of a tree has found. -/
def Found.labelled (label : String) (f : Found) : Token := ⟨f.start, f.stop, [label]⟩

namespace RuleTree

variable {root : RuleGrammar} {limits : Limits} {descend : Descend} {name label : String}
  {a : Pattern} {hay : Array Char} {p fuel : Nat} {fs : List Found} {c : Cursor} {out : Array Token}

/-- The tree of one rule. -/
def lone (name label : String) (a : Pattern) : RuleGrammar := (named name).rule label a

theorem gap_lone {q : Nat} :
    gap root limits descend (lone name label a) hay 0 [] p q out = .ok out := by
  unfold gap
  split <;> rfl

theorem earliest_lone (hc : c.advance a hay p = Cursor.search a hay p) :
    earliest (advanceAll hay p [(.mk label a .token, c)]) =
      (a.findToken hay p).map fun f => (.mk label a .token, f) := by
  have hfound := Cursor.found?_search a hay p
  rw [← hc] at hfound
  simp only [advanceAll, List.map_cons, List.map_nil, earliest, Rule.pattern, hfound]
  cases a.findToken hay p <;> rfl

theorem scanFrom_lone (h : a.Sweep hay p fs) (hc : c.advance a hay p = Cursor.search a hay p)
    (hfuel : fs.length < fuel) (hout : out.size ≤ limits.maxTokens) :
    scanFrom root limits descend (lone name label a) hay 0 [] fuel [(.mk label a .token, c)] p out =
      if out.size + fs.length ≤ limits.maxTokens then
        .ok (out ++ (fs.map (Found.labelled label)).toArray)
      else .error (.tooManyTokens limits.maxTokens) := by
  induction h generalizing c fuel out with
  | @done p hnone =>
      cases fuel with
      | zero => exact absurd hfuel (Nat.lt_irrefl 0)
      | succ fuel =>
          have hbest : earliest (advanceAll hay p [(.mk label a .token, c)]) = none := by
            rw [earliest_lone hc, hnone]
            rfl
          rw [scanFrom_eq_gap hbest, gap_lone, List.length_nil, Nat.add_zero, if_pos hout]
          simp
  | @found p f fs hf _ ih =>
      cases fuel with
      | zero => exact absurd hfuel (Nat.not_lt_zero _)
      | succ fuel =>
          have hbest : earliest (advanceAll hay p [(.mk label a .token, c)]) =
              some (.mk label a .token, f) := by
            rw [earliest_lone hc, hf]
            rfl
          have htake : take root limits descend hay 0 [] (.mk label a .token) f out =
              emit limits (f.labelled label) out := by
            simp [take, Rule.inside, Rule.label, Found.labelled]
          have hnext : advanceAll hay p [(.mk label a .token, c)] =
              [(.mk label a .token, .found f)] := by
            simp [advanceAll, Rule.pattern, hc, Cursor.search, hf]
          -- the token of the cursor lies behind, so the next round searches
          have hsearch : (Cursor.found f).advance a hay f.stop = Cursor.search a hay f.stop := by
            obtain ⟨-, hlt, -⟩ := Pattern.fits_of_findToken hf
            rw [Cursor.advance, if_neg (Nat.not_le.mpr hlt)]
            rfl
          rw [List.length_cons] at hfuel ⊢
          rw [scanFrom_eq_bind hbest, gap_lone, Except.bind, htake, hnext, emit]
          rcases Nat.lt_or_ge out.size limits.maxTokens with hroom | hroom
          · rw [if_neg (Nat.not_le.mpr hroom), Except.bind,
              ih hsearch (Nat.lt_of_succ_lt_succ hfuel) (by rwa [Array.size_push]), Array.size_push,
              Nat.add_assoc, Nat.add_comm 1]
            simp
          · rw [if_pos hroom, if_neg (by omega)]
            rfl

theorem tokenize_lone {text : String} (h : a.Sweep text.toList.toArray 0 fs)
    (hlength : fs.length ≤ text.length) (limits : Limits) :
    (lone name label a).tokenize text limits =
      if fs.length ≤ limits.maxTokens then .ok (fs.map (Found.labelled label))
      else .error (.tooManyTokens limits.maxTokens) := by
  have hfuel : fs.length < text.toList.toArray.size + 1 := by
    rw [List.size_toArray, String.length_toList]
    omega
  have hscan : scan (lone name label a) limits (limits.maxDepth + 1) (lone name label a)
      text.toList.toArray 0 [] #[] = _ := scanFrom_lone h rfl hfuel (Nat.zero_le _)
  rw [tokenize, hscan]
  by_cases hroom : fs.length ≤ limits.maxTokens <;> simp [hroom]

theorem compile_lone_iff (name label : String) {written : String} {tree : RuleGrammar} :
    ((named name).rule label written : RuleSource).compile = .ok tree ↔
      ∃ a, Pattern.ofString written = .ok a ∧ tree = lone name label a := by
  have htree : ∀ {P : Type} (a : P),
      (named name).rule label a = .mk name [.mk label a .token] false := fun _ => rfl
  rw [htree, compile, compileRules, Rule.compile]
  cases hread : Pattern.ofString written with
  | error e => simp
  | ok a => simp [Inside.compile, compileRules, lone, htree, eq_comm]

end RuleTree

/-! ### Lists of words -/

theorem Pattern.clear_wholeWord {ws : List (List Char)} (hwordly : Wordly ws) (hay : Array Char) :
    (wholeWord ws).Clear hay := by
  intro m f hf m' hm hlt
  obtain ⟨-, hrun, -⟩ := (tokenAt_wholeWord_iff hwordly).mp hf
  cases hf' : (wholeWord ws).tokenAt hay m' with
  | none => rfl
  | some f' =>
      obtain ⟨-, hrun', -⟩ := (tokenAt_wholeWord_iff hwordly).mp hf'
      exact absurd hrun' (hrun.not_inside hm hlt)

/-- The span is that of a whole word of the text, and the word is in the list. -/
def ListedWord (ws : List String) (text : String) (s : Span) : Prop :=
  WordRun text.toList.toArray s.start s.stop ∧
    String.ofList (text.toList.toArray.extract s.start s.stop).toList ∈ ws

theorem listedWord_iff {ws : List String} {text : String} {s : Span} :
    ListedWord ws text s ↔ WordRun text.toList.toArray s.start s.stop ∧
      (text.toList.toArray.extract s.start s.stop).toList ∈ ws.map String.toList := by
  refine and_congr_right fun _ => ⟨fun h => ?_, fun h => ?_⟩
  · exact List.mem_map.mpr ⟨_, h, String.toList_ofList⟩
  · obtain ⟨w, hw, heq⟩ := List.mem_map.mp h
    rwa [← heq, String.ofList_toList]

namespace RuleTree

/-- The scan by a list of words gives the words of the text that are in the list, in their order. -/
theorem exists_listedWords {ws : List String}
    (hws : ∀ w ∈ ws, w ≠ "" ∧ ∀ c ∈ w.toList, Text.isWord c = true) (text : String) :
    ∃ spans : List Span, spans.length ≤ text.length ∧
      spans.Pairwise (fun s t => s.stop ≤ t.start) ∧ (∀ s, s ∈ spans ↔ ListedWord ws text s) ∧
      ∀ name label limits,
        (lone name label (Pattern.wholeWord (ws.map String.toList))).tokenize text limits =
          if spans.length ≤ limits.maxTokens then
            .ok (spans.map fun s => ⟨s.start, s.stop, [label]⟩)
          else .error (.tooManyTokens limits.maxTokens) := by
  have hwordly : Pattern.Wordly (ws.map String.toList) := by
    intro w hw
    obtain ⟨w, hmem, rfl⟩ := List.mem_map.mp hw
    exact ⟨by simpa using (hws w hmem).1, (hws w hmem).2⟩
  obtain ⟨fs, hsweep, hlength⟩ := Pattern.exists_sweep (Pattern.wholeWord (ws.map String.toList))
    text.toList.toArray 0 (Nat.zero_le _)
  rw [Nat.zero_add, List.size_toArray, String.length_toList] at hlength
  have hfound := hsweep.mem_iff (Pattern.clear_wholeWord hwordly _)
  refine ⟨fs.map fun f => ⟨f.start, f.stop⟩, by rwa [List.length_map], ?_, fun s => ?_, ?_⟩
  · exact List.pairwise_map.mpr hsweep.apart
  · rw [listedWord_iff, List.mem_map]
    constructor
    · rintro ⟨f, hf, rfl⟩
      obtain ⟨-, -, hat⟩ := (hfound f).mp hf
      obtain ⟨heq, hword⟩ := (Pattern.tokenAt_wholeWord_iff hwordly).mp hat
      rwa [heq]
    · rintro ⟨hrun, hw⟩
      refine ⟨⟨s.start, s.start, s.stop⟩, (hfound _).mpr ⟨Nat.zero_le _, ?_, ?_⟩, rfl⟩
      · exact Nat.le_trans (Nat.le_of_lt hrun.lt) hrun.stop_le
      · exact (Pattern.tokenAt_wholeWord_iff hwordly).mpr ⟨rfl, hrun, hw⟩
  · intro name label limits
    rw [tokenize_lone hsweep hlength, List.length_map, List.map_map]
    rfl

instance : Std.Irrefl fun s t : Span => s.start < t.start := ⟨fun s => Nat.lt_irrefl s.start⟩

instance : Std.Antisymm fun s t : Span => s.start < t.start :=
  ⟨fun _ _ hlt hlt' => absurd hlt' (Nat.lt_asymm hlt)⟩

/-- The words of a text in their order are one list. -/
theorem listedWords_unique {ws : List String} {text : String} {ss ts : List Span}
    (hss : ss.Pairwise fun s t => s.stop ≤ t.start) (hts : ts.Pairwise fun s t => s.stop ≤ t.start)
    (hmem : ∀ s, s ∈ ss ↔ ListedWord ws text s) (hmem' : ∀ s, s ∈ ts ↔ ListedWord ws text s) :
    ss = ts := by
  have hascending : ∀ us : List Span, us.Pairwise (fun s t => s.stop ≤ t.start) →
      (∀ s, s ∈ us ↔ ListedWord ws text s) → us.Pairwise fun s t => s.start < t.start := by
    intro us hus hword
    refine hus.imp_of_mem fun {s _} hs _ hle => ?_
    have hlt := ((hword s).mp hs).1.lt
    omega
  exact (hascending ss hss hmem).eq_of_mem_iff (hascending ts hts hmem') fun s =>
    (hmem s).trans (hmem' s).symm

/-- The tokens of a list of non-empty words of word characters are, in their order, the whole words
of the text that are in the list; they come whenever there is room for all of them, and there are no
more of them than characters.  Hence the order of the list and repetitions in it make no
difference. -/
theorem word_lists_find_whole_words (name label : String) (ws : List String) (tree : RuleGrammar)
    (hws : ∀ w ∈ ws, w ≠ "" ∧ ∀ c ∈ w.toList, Text.isWord c = true)
    (hcompile : ((named name).rule label (Pattern.words ws) : RuleSource).compile = .ok tree) :
    (∀ text, ∃ spans : List Span, spans.length ≤ text.length ∧
      spans.Pairwise (fun s t => s.stop ≤ t.start) ∧ (∀ s, s ∈ spans ↔ ListedWord ws text s) ∧
      ∀ limits, tree.tokenize text limits =
        if spans.length ≤ limits.maxTokens then .ok (spans.map fun s => ⟨s.start, s.stop, [label]⟩)
        else .error (.tooManyTokens limits.maxTokens)) ∧
    ∀ ws' tree', (∀ w, w ∈ ws' ↔ w ∈ ws) →
      ((named name).rule label (Pattern.words ws') : RuleSource).compile = .ok tree' →
      ∀ text limits, tree'.tokenize text limits = tree.tokenize text limits := by
  obtain ⟨a, hread, rfl⟩ := (compile_lone_iff name label).mp hcompile
  obtain rfl := Pattern.eq_wholeWord_of_ofString hread
  refine ⟨fun text => ?_, fun ws' tree' hsame hcompile' text limits => ?_⟩
  · obtain ⟨spans, hlength, hapart, hmem, htokens⟩ := exists_listedWords hws text
    exact ⟨spans, hlength, hapart, hmem, htokens name label⟩
  · obtain ⟨a', hread', rfl⟩ := (compile_lone_iff name label).mp hcompile'
    obtain rfl := Pattern.eq_wholeWord_of_ofString hread'
    obtain ⟨spans, -, hapart, hmem, htokens⟩ := exists_listedWords hws text
    obtain ⟨spans', -, hapart', hmem', htokens'⟩ :=
      exists_listedWords (fun w hw => hws w ((hsame w).mp hw)) text
    have hmem'' : ∀ s, s ∈ spans' ↔ ListedWord ws text s := fun s =>
      (hmem' s).trans (and_congr_right fun _ => hsame _)
    rw [htokens, htokens', listedWords_unique hapart' hapart hmem'' hmem]

/-- The shorter keyword comes first in the list, but an edge never follows it inside the longer
one. -/
theorem instanceof_behind_its_beginning :
    ∃ tree tree' : RuleGrammar,
      ((named "keywords").rule "keyword" (Pattern.words ["in", "instanceof"])).compile = .ok tree ∧
      ((named "keywords").rule "keyword" (Pattern.words ["instanceof", "in", "in"])).compile =
        .ok tree' ∧
      tree.tokenize "in instanceof inst" {} =
        .ok [⟨0, 2, ["keyword"]⟩, ⟨3, 13, ["keyword"]⟩] ∧
      (∀ s, s ∈ [(⟨0, 2⟩ : Span), ⟨3, 13⟩] ↔
        ListedWord ["in", "instanceof"] "in instanceof inst" s) ∧
      ∀ text limits, tree'.tokenize text limits = tree.tokenize text limits := by
  have hread : Pattern.ofString (Pattern.words ["in", "instanceof"]) =
      .ok (Pattern.wholeWord ["in".toList, "instanceof".toList]) := rfl
  have hread' : Pattern.ofString (Pattern.words ["instanceof", "in", "in"]) =
      .ok (Pattern.wholeWord ["instanceof".toList, "in".toList, "in".toList]) := rfl
  have htokens : (lone "keywords" "keyword"
      (Pattern.wholeWord ["in".toList, "instanceof".toList])).tokenize "in instanceof inst" {} =
      .ok [⟨0, 2, ["keyword"]⟩, ⟨3, 13, ["keyword"]⟩] := by
    decide +kernel
  have hcompile := (compile_lone_iff "keywords" "keyword").mpr ⟨_, hread, rfl⟩
  have hcompile' := (compile_lone_iff "keywords" "keyword").mpr ⟨_, hread', rfl⟩
  obtain ⟨hwords, horder⟩ := word_lists_find_whole_words "keywords" "keyword" ["in", "instanceof"] _
    (by simp [Text.isWord]) hcompile
  refine ⟨_, _, hcompile, hcompile', htokens, fun s => ?_,
    horder ["instanceof", "in", "in"] _ (by simp [or_comm]) hcompile'⟩
  obtain ⟨spans, -, -, hmem, hall⟩ := hwords "in instanceof inst"
  have hspans : spans = [⟨0, 2⟩, ⟨3, 13⟩] := by
    have hmap := (hall {}).symm.trans htokens
    split at hmap
    · have hinj : Function.Injective fun s : Span => (⟨s.start, s.stop, ["keyword"]⟩ : Token) := by
        rintro ⟨p, q⟩ ⟨p', q'⟩ heq
        simpa using heq
      exact (List.map_injective_iff.mpr hinj) (Except.ok.inj hmap)
    · simp at hmap
  rw [← hspans]
  exact hmem s

end RuleTree

end Highlight
