import Highlight.Proofs.Rendering.Tidy
import Highlight.Proofs.Session.Exactness

/-!
# Tidy decorations of a session

Whatever a host reports about its changes, its decorations are tidy after every act: a cycle
computes them anew, or carries the tidy ones across the edit behind it.  The decorations may be
those of an older text then, but they can be drawn.
-/

namespace Highlight.Session

variable {scanner : Scanner} {s : Session}

/-- The cycle of an edit passes the change set of the edit on. -/
def Mapped (s : Session) : Act → Prop
  | .edit e note => s.change? (.edit e note) ≠ none → note.passMapping = true
  | _ => True

theorem carries_of_mapped {a : Act} {c : Change} (ha : s.Mapped a) (hc : s.change? a = some c)
    (type : String) :
    c.mapping = none ∧ c.doc = s.doc ∨
      ∃ m, c.mapping = some m ∧ s.doc.Carries type c.doc m := by
  rcases change?_cases hc with hsame | ⟨e, note, doc, m, rfl, he, rfl⟩
  · exact Or.inl hsame
  · have hpass : note.passMapping = true := ha (by simp [hc])
    exact Or.inr ⟨m, by simp [change, hpass], (Document.edited_of_edit he).carries⟩

structure Presentable (scanner : Scanner) (s : Session) : Prop where
  scanner_eq : s.pass.engine.scanner = scanner
  warm : s.pass.engine.Warm s.timeline.registry
  tidy : Tidy scanner.type s.doc s.decorations.toList

theorem presentable_opened (depot : Depot) (settings : Settings) (doc : Document) :
    (opened depot settings doc).Presentable ⟨settings.codeBlockType⟩ where
  scanner_eq := rfl
  warm := Engine.warm_new _ _ _
  tidy := tidy_nil _ _

theorem Presentable.remap (h : s.Presentable scanner) {a : Act} {c : Change} (ha : s.Mapped a)
    (hc : s.change? a = some c)
    (hremap : s.pass.phase.decide (c.facts s.pass.engine.scanner) = .remap) :
    (s.cycle c).Presentable scanner := by
  rw [cycle_of_remap hremap]
  constructor
  · exact h.scanner_eq
  · exact h.warm
  · rcases carries_of_mapped ha hc scanner.type with ⟨hm, hdoc⟩ | ⟨m, hm, hcarries⟩
    · simp only [hm, hdoc]
      exact h.tidy
    · simp only [hm]
      exact h.tidy.map hcarries

theorem Presentable.recompute (h : s.Presentable scanner) {c : Change}
    (hsize : c.doc.size ≤ positionBound)
    (hrecompute : s.pass.phase.decide (c.facts s.pass.engine.scanner) ≠ .remap) :
    (s.cycle c).Presentable scanner := by
  have hscratch := (Engine.recompute_scratch s.timeline.now h.warm hsize).1
  rw [h.scanner_eq] at hscratch
  rw [cycle_of_recompute hrecompute]
  constructor
  · exact h.scanner_eq
  · rw [pass_recompute_registry]
    exact h.warm.recompute s.timeline.now hsize
  · have hdecorations : (s.pass.recompute s.timeline c.doc).2.2.toList =
        c.doc.scratch scanner.type s.timeline.registry.grammar? s.pass.engine.limits := hscratch
    rw [hdecorations]
    exact tidy_scratch _ _ _

theorem Presentable.between (h : s.Presentable scanner) {a : Act} (hc : s.change? a = none) :
    (s.act a).Presentable scanner := by
  obtain ⟨⟨hengine, -⟩, hdoc, hds, hturn⟩ := act_of_change?_none hc
  constructor
  · rw [hengine, h.scanner_eq]
  · rw [hengine]
    rcases hturn with t | ⟨_, _, -, t⟩
    · exact h.warm.turn t
    · exact h.warm.turn t
  · rw [hdoc, hds]
    exact h.tidy

theorem Presentable.act (h : s.Presentable scanner) {a : Act} (ha : s.Mapped a)
    (hsize : s.Sized a) : (s.act a).Presentable scanner := by
  cases hc : s.change? a with
  | none => exact h.between hc
  | some c =>
      rw [act_of_change? hc]
      by_cases hremap : s.pass.phase.decide (c.facts s.pass.engine.scanner) = .remap
      · exact h.remap ha hc hremap
      · exact h.recompute (hsize c hc) hremap

/-- At all times the decorations of a session are in order and apart; none is empty or without a
label, and each lies in the text of one block of the region type. -/
theorem decorations_are_tidy (depot : Depot) (settings : Settings) (doc : Document)
    (acts : List Act) (hmapped : (opened depot settings doc).Along Mapped acts)
    (hsized : (opened depot settings doc).Along Sized acts) :
    let s := (opened depot settings doc).run acts
    (s.decorations.toList.Pairwise fun x y => x.start < y.start ∧ x.stop ≤ y.start) ∧
    ∀ x ∈ s.decorations.toList, x.start < x.stop ∧ x.labels ≠ [] ∧
      ∃ b ∈ s.doc.placed, b.block.type = settings.codeBlockType ∧
        b.contentStart ≤ x.start ∧ x.stop ≤ b.contentStop := by
  intro s
  have h : s.Presentable ⟨settings.codeBlockType⟩ :=
    (hmapped.and hsized).induction (fun s a h hp => h.act hp.1 hp.2)
      (presentable_opened depot settings doc)
  refine ⟨h.tidy.sorted, ?_⟩
  intro x hx
  obtain ⟨b, hb, htype, hcontains⟩ := h.tidy.inside x hx
  exact ⟨h.tidy.covers x hx, h.tidy.labelled x hx, b, hb, htype, hcontains⟩

/-- The host edits a decorated text across the edge of a decoration, but does not say that a code
block has the focus: the decoration is cut and not computed anew. -/
theorem edit_at_the_edge_of_a_decoration :
    let depot : Depot := { registry := { loaders := [⟨(· == "x"), fun _ => .ok .whole⟩] } }
    let doc : Document := ⟨[{ id := 1, language := some "x", text := "abcd" }]⟩
    let acts : List Act :=
      [.mount, .idle {}, .aside (.registry (.finish 1 (.ok .whole))), .deliver,
        .edit (.replace 1 3 "new") {}]
    (opened depot {} doc).Along Mapped acts ∧ (opened depot {} doc).Along Sized acts ∧
      ((opened depot {} doc).run acts).decorations.toList = [⟨4, 6, ["text"]⟩] ∧
      ∃ b ∈ ((opened depot {} doc).run acts).doc.placed, b.block.type = "code_block" ∧
        b.contentStart ≤ 4 ∧ 6 ≤ b.contentStop := by
  intro depot doc acts
  have hmapped : (opened depot {} doc).Along Mapped acts :=
    ⟨trivial, trivial, trivial, trivial, fun _ => rfl, trivial⟩
  have hsized : (opened depot {} doc).Along Sized acts := by
    refine ⟨?_, ?_, ?_, ?_, ?_, trivial⟩ <;> decide +kernel
  have hcut : ((opened depot {} doc).run acts).decorations.toList = [⟨4, 6, ["text"]⟩] := by
    decide +kernel
  have hmem : (⟨4, 6, ["text"]⟩ : Decoration) ∈
      ((opened depot {} doc).run acts).decorations.toList := by
    rw [hcut]
    exact List.mem_cons_self
  have hdrawn := decorations_are_tidy depot {} doc acts hmapped hsized
  exact ⟨hmapped, hsized, hcut, (hdrawn.2 _ hmem).2.2⟩

end Highlight.Session
