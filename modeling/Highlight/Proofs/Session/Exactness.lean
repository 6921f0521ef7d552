import Highlight.Proofs.Rendering.Histories
import Highlight.Proofs.Rendering.Remap
import Highlight.Proofs.Session.Acts

/-!
# Decorations of a session

After every cycle a session shows what a new engine would compute for its document.  Cycles that
compute anew do so because the cache is fresh.  Cycles that only carry decorations across happen in
the phase `highlighted`, when the decorations are exact and each block of the region type has its
grammar or will never get one; both stay true whatever goes on between cycles.
-/

namespace Highlight

namespace Registry

/-- Nothing more is to be expected of a tag: it has its grammar, or none can be loaded. -/
def Decided (r : Registry) (language : String) : Prop :=
  r.grammar? language ≠ none ∨ r.Hopeless language

theorem Hopeless.grammar?_eq_none {r : Registry} {language : String} (h : r.Hopeless language)
    (hplain : Language.isPlain language = false) : r.grammar? language = none := by
  rw [hopeless_iff r hplain] at h
  rcases h with ⟨hs, -⟩ | ⟨failures, w, hs, -⟩ <;> simp [grammar?, hs]

theorem Turn.decided {r r' : Registry} {a : Option String} (t : Turn r a r') {language : String}
    (hplain : Language.isPlain language = false) (h : r.Decided language)
    (ha : ∀ tag, a = some tag → ¬ r.Hopeless tag) :
    r'.Decided language ∧ r'.grammar? language = r.grammar? language := by
  rcases h with hg | hh
  · obtain ⟨g, hg⟩ := Option.ne_none_iff_exists'.mp hg
    have hg' := t.grammar?_eq hg
    exact ⟨Or.inl (by simp [hg']), by rw [hg, hg']⟩
  · have hh' := t.hopeless hplain hh fun hl => ha language hl hh
    exact ⟨Or.inr hh', by rw [hh.grammar?_eq_none hplain, hh'.grammar?_eq_none hplain]⟩

end Registry

namespace Document

/-- The languages of all blocks of the region type are decided. -/
def Settled (type : String) (r : Registry) (d : Document) : Prop :=
  ∀ b ∈ d.blocks, b.type = type → ∀ tag, b.language = some tag →
    Language.isPlain tag = false → r.Decided tag

variable {type : String} {r r' : Registry} {d d' : Document}

theorem Settled.turn (h : d.Settled type r) {a : Option String} (t : Registry.Turn r a r')
    (ha : ∀ tag, a = some tag → ¬ r.Hopeless tag) (limits : Limits) :
    d.Settled type r' ∧ d.scratch type r'.grammar? limits = d.scratch type r.grammar? limits := by
  constructor
  · intro b hb htype tag hl hplain
    exact (t.decided hplain (h b hb htype tag hl hplain) ha).1
  · apply scratch_congr
    intro b hb htype tag hl hplain
    exact (t.decided hplain (h b hb htype tag hl hplain) ha).2

theorem Settled.exchange (h : d.Settled type r) {c : ChangeSet} (he : Exchange type d d' c) :
    d'.Settled type r := by
  intro b hb htype
  exact h b (he.mem hb htype) htype

theorem settled_of_recompute {e : Engine} {now : Nat} (hr : r.Sound)
    (h : (e.recompute r now d).1.incomplete = false) : d.Settled e.scanner.type r := by
  obtain ⟨-, hall⟩ := e.recompute_covered r now d h
  intro b hb htype tag hl hplain
  by_cases hg : r.grammar? tag = none
  · rcases hall b hb htype tag hl hplain with hne | hnone
    · exact absurd hg hne
    · exact Or.inr (hr.hopeless_of_ensureLoaded hg hnone hplain)
  · exact Or.inl hg

end Document

/-- The host passes the change set of each edit on, and reports an edit of a block of the region
type as a change from outside or as one that touches a region.  Nobody registers a grammar by hand
for a tag that cannot be loaded. -/
def Act.Honest (s : Session) : Act → Prop
  | .edit e note => ∀ c, s.change? (.edit e note) = some c → note.passMapping = true ∧
      (e.targetType? s.doc = some s.pass.engine.scanner.type →
        (c.facts s.pass.engine.scanner).externalSync = true ∨
          (c.facts s.pass.engine.scanner).docChanged = true ∧
            (c.facts s.pass.engine.scanner).touchesRegion = true)
  | .aside (.registry (.register language _)) => ¬ s.timeline.registry.Hopeless language
  | _ => True

namespace Session

variable {scanner : Scanner} {limits : Limits} {s : Session}

def Exact (scanner : Scanner) (limits : Limits) (s : Session) : Prop :=
  s.decorations.toList = s.doc.scratch scanner.type s.timeline.registry.grammar? limits

/-- What makes carrying decorations across as good as computing them. -/
structure Faithful (scanner : Scanner) (limits : Limits) (s : Session) : Prop where
  scanner_eq : s.pass.engine.scanner = scanner
  limits_eq : s.pass.engine.limits = limits
  sound : s.timeline.registry.Sound
  warm : s.pass.engine.Warm s.timeline.registry
  exact : s.pass.phase = .highlighted → s.Exact scanner limits
  settled : s.pass.phase = .highlighted → s.doc.Settled scanner.type s.timeline.registry

theorem faithful_opened {depot : Depot} (h : depot.registry.Reachable) (settings : Settings)
    (doc : Document) :
    (opened depot settings doc).Faithful ⟨settings.codeBlockType⟩ settings.limits where
  scanner_eq := rfl
  limits_eq := rfl
  sound := h.sound
  warm := Engine.warm_new _ _ _
  exact := by simp [opened, Session.start, Pass.ofSettings]
  settled := by simp [opened, Session.start, Pass.ofSettings]

/-! ### Cycles -/

/-- An honest cycle that carries decorations across has an exchange of blocks behind it, or
nothing. -/
theorem exchange_of_honest {a : Act} {c : Change} (ha : a.Honest s) (hc : s.change? a = some c)
    (hremap : s.pass.phase.decide (c.facts s.pass.engine.scanner) = .remap) :
    c.mapping = none ∧ c.doc = s.doc ∨
      ∃ m, c.mapping = some m ∧ Document.Exchange s.pass.engine.scanner.type s.doc c.doc m := by
  obtain ⟨hsync, hregion, -⟩ := (Phase.decide_eq_remap_iff _ _).mp hremap
  rcases change?_cases hc with hsame | ⟨e, note, doc, m, rfl, he, rfl⟩
  · exact Or.inl hsame
  · obtain ⟨hpass, htarget⟩ := ha _ hc
    have hne : e.targetType? s.doc ≠ some s.pass.engine.scanner.type := by
      intro heq
      rcases htarget heq with hs | hr
      · rw [hsync] at hs
        exact absurd hs Bool.false_ne_true
      · exact hregion hr
    exact Or.inr ⟨m, by simp [change, hpass], Document.exchange_edit he hne⟩

theorem Faithful.remap (h : s.Faithful scanner limits) {a : Act} {c : Change} (ha : a.Honest s)
    (hc : s.change? a = some c)
    (hremap : s.pass.phase.decide (c.facts s.pass.engine.scanner) = .remap) :
    (s.cycle c).Faithful scanner limits ∧ (s.cycle c).Exact scanner limits := by
  have hphase := ((Phase.decide_eq_remap_iff _ _).mp hremap).2.2
  have hexact := h.exact hphase
  have hsettled := h.settled hphase
  have hcovers : ∀ x ∈ s.decorations.toList, x.start < x.stop := by
    intro x hx
    rw [hexact, ← Document.scratchFrom_zero] at hx
    exact (Document.bounds_of_mem_scratchFrom hx).2.1
  have hcycle := cycle_of_remap hremap
  have hnew : (s.cycle c).Exact scanner limits ∧
      c.doc.Settled scanner.type s.timeline.registry := by
    rw [hcycle]
    rcases exchange_of_honest ha hc hremap with ⟨hm, hdoc⟩ | ⟨m, hm, hex⟩
    · simp only [hm, hdoc]
      exact ⟨hexact, hsettled⟩
    · rw [h.scanner_eq] at hex
      simp only [hm, Exact]
      rw [DecorationSet.toList_map hcovers, hexact]
      exact ⟨hex.filterMap_scratch, hsettled.exchange hex⟩
  refine ⟨?_, hnew.1⟩
  have hpass : (s.cycle c).pass = s.pass := by rw [hcycle]
  have htimeline : (s.cycle c).timeline = s.timeline := by rw [hcycle]
  have hdoc : (s.cycle c).doc = c.doc := by rw [hcycle]
  constructor
  · rw [hpass, h.scanner_eq]
  · rw [hpass, h.limits_eq]
  · rw [htimeline]
    exact h.sound
  · rw [hpass, htimeline]
    exact h.warm
  · exact fun _ => hnew.1
  · rw [htimeline, hdoc]
    exact fun _ => hnew.2

theorem Faithful.recompute (h : s.Faithful scanner limits) {c : Change}
    (hsize : c.doc.size ≤ positionBound)
    (hrecompute : s.pass.phase.decide (c.facts s.pass.engine.scanner) ≠ .remap) :
    (s.cycle c).Faithful scanner limits ∧ (s.cycle c).Exact scanner limits := by
  obtain ⟨hscratch, hknown, -⟩ := Engine.recompute_scratch s.timeline.now h.warm hsize
  obtain ⟨hturns, -, -⟩ := s.pass.engine.recompute_waits s.timeline.registry s.timeline.now c.doc
  have hregistry := pass_recompute_registry s.pass s.timeline c.doc
  rw [h.scanner_eq, h.limits_eq] at hscratch
  rw [cycle_of_recompute hrecompute]
  have hexact : (s.pass.recompute s.timeline c.doc).2.2.toList =
      c.doc.scratch scanner.type
        (s.pass.recompute s.timeline c.doc).2.1.registry.grammar? limits := by
    rw [hregistry, hknown]
    exact hscratch
  refine ⟨?_, hexact⟩
  constructor
  · exact h.scanner_eq
  · exact h.limits_eq
  · rw [hregistry]
    exact hturns.sound h.sound
  · rw [hregistry]
    exact Engine.Warm.recompute h.warm s.timeline.now hsize
  · exact fun _ => hexact
  · -- the pass was complete, so its registry is the one it began with
    intro hphase
    have hcomplete :
        (s.pass.engine.recompute s.timeline.registry s.timeline.now c.doc).1.incomplete =
        false := (Phase.afterPass_eq_highlighted_iff _).mp hphase
    have hsame := (s.pass.engine.recompute_covered s.timeline.registry s.timeline.now c.doc
      hcomplete).1
    have hsettled := Document.settled_of_recompute h.sound hcomplete
    rw [h.scanner_eq] at hsettled
    rw [hregistry, hsame]
    exact hsettled

theorem Faithful.cycle (h : s.Faithful scanner limits) {a : Act} {c : Change} (ha : a.Honest s)
    (hc : s.change? a = some c) (hsize : c.doc.size ≤ positionBound) :
    (s.cycle c).Faithful scanner limits ∧ (s.cycle c).Exact scanner limits := by
  by_cases hremap : s.pass.phase.decide (c.facts s.pass.engine.scanner) = .remap
  · exact h.remap ha hc hremap
  · exact h.recompute hsize hremap

/-! ### All acts -/

theorem Faithful.between (h : s.Faithful scanner limits) {a : Act} (ha : a.Honest s)
    (hc : s.change? a = none) : (s.act a).Faithful scanner limits := by
  obtain ⟨⟨hengine, hphase⟩, hdoc, hds, hturn⟩ := act_of_change?_none hc
  obtain ⟨adopted, hadopted, t⟩ : ∃ adopted,
      (∀ tag, adopted = some tag → ¬ s.timeline.registry.Hopeless tag) ∧
        Registry.Turn s.timeline.registry adopted (s.act a).timeline.registry := by
    rcases hturn with t | ⟨language, g, rfl, t⟩
    · exact ⟨none, by simp, t⟩
    · refine ⟨some language, ?_, t⟩
      rintro _ ⟨⟩
      exact ha
  constructor
  · rw [hengine, h.scanner_eq]
  · rw [hengine, h.limits_eq]
  · exact t.sound h.sound
  · rw [hengine]
    exact h.warm.turn t
  · intro hp
    rw [hphase] at hp
    have hsame := ((h.settled hp).turn t hadopted limits).2
    rw [Exact, hds, hdoc, hsame]
    exact h.exact hp
  · intro hp
    rw [hphase] at hp
    rw [hdoc]
    exact ((h.settled hp).turn t hadopted limits).1

/-- The documents of a session's cycles have positions that can be told apart, as all documents do
whose positions fit into a signed word of 64 bits. -/
def Sized (s : Session) (a : Act) : Prop := ∀ c, s.change? a = some c → c.doc.size ≤ positionBound

instance (s : Session) (a : Act) : Decidable (s.Sized a) :=
  decidable_of_iff ((s.change? a).all fun c => c.doc.size ≤ positionBound) (by
    unfold Sized
    cases s.change? a <;> simp)

theorem Faithful.act (h : s.Faithful scanner limits) {a : Act} (ha : a.Honest s)
    (hsize : s.Sized a) : (s.act a).Faithful scanner limits := by
  cases hc : s.change? a with
  | none => exact h.between ha hc
  | some c =>
      rw [act_of_change? hc]
      exact (h.cycle ha hc (hsize c hc)).1

/-- After every cycle of every session, the decorations are those that a new engine with the same
settings computes for the document, with the grammars that are registered then. -/
theorem cycle_shows_what_a_new_engine_computes (depot : Depot) (settings : Settings)
    (doc : Document) (hdepot : depot.registry.Reachable) (acts : List Act) (a : Act) (c : Change)
    (now : Nat) (hhonest : (opened depot settings doc).Along (fun s a => a.Honest s) (acts ++ [a]))
    (hsized : (opened depot settings doc).Along Sized (acts ++ [a]))
    (hc : ((opened depot settings doc).run acts).change? a = some c) :
    let s := (opened depot settings doc).run (acts ++ [a])
    s.decorations = ((Pass.ofSettings settings).engine.recompute
      s.timeline.registry now s.doc).1.decorations := by
  rw [along_append] at hhonest hsized
  have hfaithful : ((opened depot settings doc).run acts).Faithful
      ⟨settings.codeBlockType⟩ settings.limits := by
    have hboth := hhonest.1.and hsized.1
    exact hboth.induction (fun s a h hp => h.act hp.1 hp.2) (faithful_opened hdepot settings doc)
  have hsize := hsized.2.1 c hc
  obtain ⟨-, hexact⟩ := hfaithful.cycle hhonest.2.1 hc hsize
  rw [run_append, run_cons, run_nil, act_of_change? hc]
  intro s
  have hnew := (Engine.recompute_scratch now
    (Engine.warm_new ⟨settings.codeBlockType⟩ settings.limits s.timeline.registry)
    (show s.doc.size ≤ positionBound from hsize)).1
  have hlists : s.decorations.toList = ((Pass.ofSettings settings).engine.recompute
      s.timeline.registry now s.doc).1.decorations.toList := hexact.trans hnew.symm
  exact congrArg DecorationSet.mk hlists

/-- A grammar is loaded, a surface asks for the cycle that decorates the block, and an edit of the
paragraph above carries the decoration across. -/
theorem edit_above_a_decorated_block :
    let loader : Loader := ⟨(· == "x"), fun _ => .ok .whole⟩
    let depot : Depot := { registry := { loaders := [loader] } }
    let doc : Document :=
      ⟨[{ id := 1, type := "paragraph", text := "p" },
        { id := 2, language := some "x", text := "ab" }]⟩
    let acts : List Act :=
      [.mount, .idle {}, .aside (.registry (.finish 1 (.ok .whole))), .wake 1, .deliver]
    let a : Act := .edit (.insertText 1 "new") {}
    let s := opened depot {} doc
    s.Along (fun s a => a.Honest s) (acts ++ [a]) ∧ s.Along Sized (acts ++ [a]) ∧
      (s.run acts).pass.phase = .highlighted ∧
      (s.run (acts ++ [a])).decorations.toList = [⟨7, 9, ["text"]⟩] ∧
      ∃ c, (s.run acts).change? a = some c ∧
        (s.run (acts ++ [a])).decorations =
          ((Pass.ofSettings {}).engine.recompute (s.run (acts ++ [a])).timeline.registry 0
            (s.run (acts ++ [a])).doc).1.decorations := by
  intro loader depot doc acts a s
  have hreachable : depot.registry.Reachable := ⟨[loader], {}, [], rfl⟩
  have hhonest : s.Along (fun s a => a.Honest s) (acts ++ [a]) := by
    refine ⟨trivial, trivial, trivial, trivial, trivial, ?_, trivial⟩
    exact fun c _ => ⟨rfl, fun h => absurd h (by decide +kernel)⟩
  have hsized : s.Along Sized (acts ++ [a]) := by
    refine ⟨?_, ?_, ?_, ?_, ?_, ?_, trivial⟩ <;> decide +kernel
  have hcycle : ((s.run acts).change? a).isSome = true := by decide +kernel
  obtain ⟨c, hc⟩ := Option.isSome_iff_exists.mp hcycle
  refine ⟨hhonest, hsized, by decide +kernel, by decide +kernel, c, hc, ?_⟩
  exact cycle_shows_what_a_new_engine_computes depot {} doc hreachable acts a c 0 hhonest hsized hc

end Session

end Highlight
