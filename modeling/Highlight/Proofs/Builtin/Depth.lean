import Highlight.Proofs.Builtin.Patterns
import Highlight.Proofs.Grammar.Building
import Highlight.Proofs.Grammar.Limits
import Highlight.Proofs.Grammar.Nesting

/-!
# Built-in grammars and their depth

Five scans in a row are enough for every built-in grammar: that of the text, that of a string, that
of an interpolation, that of the text inside it by the root once more, and that of a string in
there.  So a nesting depth of four is never exceeded, and with room for a token on each character
nothing else can go wrong.
-/

namespace Highlight.Builtin

open Pattern (read)

theorem copes_of_mem_sources : ∀ source ∈ sources,
    (source.2.map read).copes 5 [] (source.2.map read) = true := by
  decide +kernel

/-- The tree that a built-in grammar is made of: it compiles, and five scans in a row are enough for
it. -/
theorem exists_grammar {tag : String} (h : provides tag = true) :
    ∃ root : RuleGrammar, load tag = .ok root.toGrammar ∧ root.copes 5 [] root = true := by
  obtain ⟨source, hsource⟩ := Option.isSome_iff_exists.mp h
  obtain ⟨before, behind, hsources, -⟩ := List.lookup_eq_some_iff.mp hsource
  have hmem : (tag, source) ∈ sources := by simp [hsources]
  have hcompile : source.compile = .ok (source.map read) :=
    source.compile_eq (readable_of_mem_sources _ hmem).reads
  refine ⟨source.map read, ?_, copes_of_mem_sources _ hmem⟩
  simp [load, rules?, hsource, hcompile]

theorem tokenize_of_copes {root : RuleGrammar} (h : root.copes 5 [] root = true) {text : String}
    {limits : Limits} (hdepth : 4 ≤ limits.maxDepth) (hroom : text.length ≤ limits.maxTokens) :
    ∃ ts, root.tokenize text limits = .ok ts := by
  rcases root.tokenize_cases text limits with hmany | hdeep | ⟨ts, hts, -⟩
  · exact absurd hmany (root.tokenize_ne_tooMany hroom)
  · exact absurd hdeep (RuleTree.tokenize_ne_deep_of_copes h (by omega) text _)
  · exact ⟨ts, hts⟩

theorem check_ne_deep_of_copes {root : RuleGrammar} (h : root.copes 5 [] root = true)
    {limits : Limits} (hdepth : 4 ≤ limits.maxDepth) (text : String) (limit : Nat) :
    root.toGrammar.check text limits ≠ .error (.nestingTooDeep limit) := by
  rw [RuleTree.check_toGrammar]
  exact RuleTree.tokenize_ne_deep_of_copes h (by omega) text limit

/-- Every tag that is provided for has a grammar, and its nesting never gets in the way.  When the
grammar may nest four deep and there is room for a token on each character, each text has tokens;
the depth is never exceeded whatever the room is; and under the default limits each text of at most
100000 characters has tokens. -/
theorem nesting_never_fails (tag : String) (h : provides tag = true) :
    ∃ g, load tag = .ok g ∧
      (∀ text limits, 4 ≤ limits.maxDepth → text.length ≤ limits.maxTokens →
        ∃ ts, g.tokenize text limits = .ok ts ∧ g.check text limits = .ok ts) ∧
      (∀ text limits limit, 4 ≤ limits.maxDepth →
        g.check text limits ≠ .error (.nestingTooDeep limit)) ∧
      (∀ text limit, g.check text {} ≠ .error (.nestingTooDeep limit)) ∧
      ∀ text, text.length ≤ 100000 → ∃ ts, g.check text {} = .ok ts := by
  obtain ⟨root, hload, hcopes⟩ := exists_grammar h
  refine ⟨root.toGrammar, hload, fun text limits hdepth hroom => ?_,
    fun text limits limit hdepth => check_ne_deep_of_copes hcopes hdepth text limit,
    fun text limit => check_ne_deep_of_copes hcopes (by decide) text limit, fun text hlength => ?_⟩
  · obtain ⟨ts, hts⟩ := tokenize_of_copes hcopes hdepth hroom
    exact ⟨ts, hts, (root.check_toGrammar text limits).trans hts⟩
  · have hdepth : 4 ≤ ({} : Limits).maxDepth := by decide
    obtain ⟨ts, hts⟩ := tokenize_of_copes hcopes hdepth hlength
    exact ⟨ts, (root.check_toGrammar text {}).trans hts⟩

theorem python_string_in_an_interpolation :
    provides "python" = true ∧ ∃ g, load "python" = .ok g ∧
      ∃ ts, g.tokenize "f\"\x7bf'\x7bx\x7d'\x7d\"" ⟨12, 4⟩ = .ok ts := by
  have hprovided : provides "python" = true := by decide +kernel
  obtain ⟨g, hload, htokens, -⟩ := nesting_never_fails "python" hprovided
  obtain ⟨ts, hts, -⟩ := htokens "f\"\x7bf'\x7bx\x7d'\x7d\"" ⟨12, 4⟩ (by decide) (by decide)
  exact ⟨hprovided, g, hload, ts, hts⟩

end Highlight.Builtin
