import Highlight.Builtin
import Highlight.Proofs.Grammar.Readable

/-!
# The patterns of the built-in grammars

All patterns of the built-in grammars can be read.  Each one is read by itself, the shared ones
once, so a tree only has to name them in its order.
-/

namespace Highlight.Builtin

open Pattern (Reads SpellsAll reads_literal reads_words spells_literal spells_words words)
open RuleTree (readable_named)

theorem reads_parts {cs ds : List Char}
    (h : (Pattern.ofChars CharSet.roughRoom (cs ++ ds)).isOk = true) :
    Reads (String.ofList cs ++ String.ofList ds) :=
  ((spells_literal cs).append (spells_literal ds)).reads h

theorem reads_markedWords {cs : List Char} {ws : List String} {css : List (List Char)}
    (hws : SpellsAll ws css)
    (h : (Pattern.ofChars CharSet.roughRoom (cs ++ Pattern.wordChars css)).isOk = true) :
    Reads (String.ofList cs ++ words ws) :=
  ((spells_literal cs).append (spells_words hws)).reads h

/-! ### Shared parts -/

instance reads_braceComment : Reads braceComment := reads_literal (by decide +kernel)

instance reads_hashComment : Reads hashComment := reads_literal (by decide +kernel)

instance reads_doubleQuoted : Reads doubleQuoted := reads_literal (by decide +kernel)

instance reads_singleQuoted : Reads singleQuoted := reads_literal (by decide +kernel)

instance reads_numeral : Reads numeral :=
  reads_parts (by decide +kernel)

instance reads_functionName : Reads functionName := reads_literal (by decide +kernel)

instance reads_identifier : Reads identifier := reads_literal (by decide +kernel)

instance reads_operatorSigns : Reads operatorSigns := reads_literal (by decide +kernel)

instance reads_punctuationMark : Reads punctuationMark := reads_literal (by decide +kernel)

instance reads_className : Reads className :=
  reads_parts (by decide +kernel)

theorem reads_wordRule {label : String} {ws : List String} (h : Reads (words ws)) :
    ∀ s ∈ patternsOf (wordRule label ws), Reads s := by
  unfold wordRule
  split
  · simp [patternsOf]
  · simpa [patternsOf, Rule.patterns, Inside.patterns] using h

theorem readable_withCommonTail {t : RuleSource} {keywords : String}
    {constants builtins : List String} (h : t.Readable) (hkeywords : Reads keywords)
    (hconstants : Reads (words constants)) (hbuiltins : Reads (words builtins)) :
    (withCommonTail t keywords constants builtins).Readable := by
  have hwords : ∀ s ∈ patternsOf (wordRule "boolean" constants ++ wordRule "builtin" builtins),
      Reads s := by
    rw [patternsOf_append, List.forall_mem_append]
    exact ⟨reads_wordRule hconstants, reads_wordRule hbuiltins⟩
  exact h.rule reads_className
    |>.rule hkeywords
    |>.addRules hwords
    |>.rule reads_functionName
    |>.rule reads_numeral
    |>.rule reads_identifier
    |>.rule reads_operatorSigns
    |>.rule reads_punctuationMark

theorem readable_interpolated {name : String} {pattern opening : List Char}
    (hpattern : (Pattern.ofChars CharSet.roughRoom pattern).isOk = true)
    (hedges : (Pattern.ofChars CharSet.roughRoom
      (['^'] ++ Pattern.escapeChars opening ++ ['|', '\\', '}', '$'])).isOk = true) :
    (interpolated name (String.ofList pattern) (String.ofList opening)).Readable :=
  (readable_named name).nest (reads_literal hpattern)
    ((readable_named _).rule (((spells_literal ['^']).append (spells_literal opening).escape).append
      (spells_literal ['|', '\\', '}', '$']) |>.reads hedges)).withRestToRoot

theorem readable_variablesInString {name pattern : String} (hpattern : Reads pattern) :
    (variablesInString name pattern).Readable :=
  (readable_named name).rule hpattern

instance reads_noWords : Reads (words []) := reads_words (by repeat constructor) (by decide +kernel)

/-! ### Dynamic languages -/

instance readable_python : python.Readable :=
  readable_withCommonTail
    (readable_named _
      |>.rule reads_hashComment
      |>.rule (reads_literal (by decide +kernel))
      |>.nest (reads_literal (by decide +kernel))
          (readable_interpolated (by decide +kernel) (by decide +kernel))
      |>.rule (reads_literal (by decide +kernel))
      |>.rule reads_doubleQuoted
      |>.rule reads_singleQuoted
      |>.rule (reads_literal (by decide +kernel)))
    (reads_words (by repeat constructor) (by decide +kernel))
    (reads_words (by repeat constructor) (by decide +kernel))
    (reads_words (by repeat constructor) (by decide +kernel))

instance readable_ruby : ruby.Readable :=
  readable_withCommonTail
    (readable_named _
      |>.rule (reads_literal (by decide +kernel))
      |>.nest (reads_literal (by decide +kernel))
          (readable_interpolated (by decide +kernel) (by decide +kernel))
      |>.rule reads_singleQuoted
      |>.rule (reads_literal (by decide +kernel))
      |>.rule (reads_literal (by decide +kernel)))
    (reads_words (by repeat constructor) (by decide +kernel))
    (reads_words (by repeat constructor) (by decide +kernel))
    (reads_words (by repeat constructor) (by decide +kernel))

instance readable_perl : perl.Readable :=
  readable_withCommonTail
    (readable_named _
      |>.rule (reads_literal (by decide +kernel))
      |>.nest reads_doubleQuoted
          (readable_variablesInString (reads_literal (by decide +kernel)))
      |>.rule reads_singleQuoted
      |>.rule (reads_parts (by decide +kernel))
      |>.rule (reads_literal (by decide +kernel)))
    (reads_words (by repeat constructor) (by decide +kernel))
    reads_noWords
    (reads_words (by repeat constructor) (by decide +kernel))

instance readable_php : php.Readable :=
  readable_withCommonTail
    (readable_named _
      |>.rule (reads_literal (by decide +kernel))
      |>.rule (reads_literal (by decide +kernel))
      |>.nest reads_doubleQuoted
          (readable_variablesInString (reads_literal (by decide +kernel)))
      |>.rule reads_singleQuoted
      |>.rule (reads_literal (by decide +kernel)))
    (reads_markedWords (by repeat constructor) (by decide +kernel))
    (reads_words (by repeat constructor) (by decide +kernel))
    reads_noWords

/-! ### Languages of managed runtimes -/

instance readable_csharp : csharp.Readable :=
  readable_withCommonTail
    (readable_named _
      |>.rule reads_braceComment
      |>.rule (reads_literal (by decide +kernel))
      |>.nest (reads_literal (by decide +kernel))
          (readable_interpolated (by decide +kernel) (by decide +kernel))
      |>.rule (reads_literal (by decide +kernel))
      |>.rule reads_doubleQuoted
      |>.rule reads_singleQuoted
      |>.rule (reads_literal (by decide +kernel)))
    (reads_words (by repeat constructor) (by decide +kernel))
    (reads_words (by repeat constructor) (by decide +kernel))
    reads_noWords

instance readable_java : java.Readable :=
  readable_withCommonTail
    (readable_named _
      |>.rule reads_braceComment
      |>.rule (reads_literal (by decide +kernel))
      |>.rule reads_doubleQuoted
      |>.rule reads_singleQuoted
      |>.rule (reads_literal (by decide +kernel)))
    (reads_words (by repeat constructor) (by decide +kernel))
    (reads_words (by repeat constructor) (by decide +kernel))
    reads_noWords

instance reads_templateString : Reads templateString := reads_literal (by decide +kernel)

instance readable_insideTemplate : insideTemplate.Readable :=
  readable_interpolated (by decide +kernel) (by decide +kernel)

instance readable_javascript : javascript.Readable :=
  readable_withCommonTail
    (readable_named _
      |>.rule reads_braceComment
      |>.nest reads_templateString readable_insideTemplate
      |>.rule reads_doubleQuoted
      |>.rule reads_singleQuoted)
    (reads_words (by repeat constructor) (by decide +kernel))
    (reads_words (by repeat constructor) (by decide +kernel))
    (reads_words (by repeat constructor) (by decide +kernel))

instance readable_typescript : typescript.Readable :=
  readable_withCommonTail
    (readable_named _
      |>.rule reads_braceComment
      |>.nest reads_templateString readable_insideTemplate
      |>.rule reads_doubleQuoted
      |>.rule reads_singleQuoted
      |>.rule (reads_literal (by decide +kernel)))
    (reads_words (by repeat constructor) (by decide +kernel))
    (reads_words (by repeat constructor) (by decide +kernel))
    (reads_words (by repeat constructor) (by decide +kernel))

/-! ### Systems languages -/

instance reads_preprocessorLine : Reads preprocessorLine := reads_literal (by decide +kernel)

instance readable_c : c.Readable :=
  readable_withCommonTail
    (readable_named _
      |>.rule reads_braceComment
      |>.rule reads_preprocessorLine
      |>.rule reads_doubleQuoted
      |>.rule reads_singleQuoted)
    (reads_words (by repeat constructor) (by decide +kernel))
    (reads_words (by repeat constructor) (by decide +kernel))
    reads_noWords

instance readable_objectiveC : objectiveC.Readable :=
  readable_withCommonTail
    (readable_named _
      |>.rule reads_braceComment
      |>.rule reads_preprocessorLine
      |>.rule (reads_literal (by decide +kernel))
      |>.rule reads_singleQuoted
      |>.rule (((spells_literal _).append (spells_literal _)).append (spells_literal _)
          |>.reads (by decide +kernel)))
    (reads_words (by repeat constructor) (by decide +kernel))
    (reads_words (by repeat constructor) (by decide +kernel))
    reads_noWords

instance readable_go : go.Readable :=
  readable_withCommonTail
    (readable_named _
      |>.rule reads_braceComment
      |>.rule (reads_literal (by decide +kernel))
      |>.rule reads_doubleQuoted
      |>.rule reads_singleQuoted)
    (reads_words (by repeat constructor) (by decide +kernel))
    (reads_words (by repeat constructor) (by decide +kernel))
    (reads_words (by repeat constructor) (by decide +kernel))

instance readable_rust : rust.Readable :=
  readable_withCommonTail
    (readable_named _
      |>.rule reads_braceComment
      |>.rule (reads_literal (by decide +kernel))
      |>.rule (reads_literal (by decide +kernel))
      |>.rule (reads_literal (by decide +kernel))
      |>.rule (reads_parts (by decide +kernel))
      |>.rule (reads_literal (by decide +kernel))
      |>.rule (reads_literal (by decide +kernel)))
    (reads_words (by repeat constructor) (by decide +kernel))
    (reads_words (by repeat constructor) (by decide +kernel))
    (reads_words (by repeat constructor) (by decide +kernel))

/-! ### Shells -/

instance reads_bashVariable : Reads bashVariable := reads_literal (by decide +kernel)

instance readable_bash : bash.Readable :=
  readable_named _
    |>.rule (reads_literal (by decide +kernel))
    |>.rule (reads_literal (by decide +kernel))
    |>.nest reads_doubleQuoted (readable_variablesInString reads_bashVariable)
    |>.rule (reads_literal (by decide +kernel))
    |>.rule reads_bashVariable
    |>.rule (reads_words (by repeat constructor) (by decide +kernel))
    |>.rule (reads_words (by repeat constructor) (by decide +kernel))
    |>.rule (reads_words (by repeat constructor) (by decide +kernel))
    |>.rule (reads_literal (by decide +kernel))
    |>.rule reads_numeral
    |>.rule (reads_literal (by decide +kernel))
    |>.rule (reads_literal (by decide +kernel))

instance reads_powershellVariable : Reads powershellVariable := reads_literal (by decide +kernel)

instance readable_powershell : powershell.Readable :=
  readable_named _
    |>.rule (reads_literal (by decide +kernel))
    |>.nest (reads_literal (by decide +kernel))
        (readable_variablesInString reads_powershellVariable)
    |>.rule (reads_literal (by decide +kernel))
    |>.rule (reads_literal (by decide +kernel))
    |>.rule reads_powershellVariable
    |>.rule (reads_markedWords (by repeat constructor) (by decide +kernel))
    |>.rule (reads_parts (by decide +kernel))
    |>.rule (reads_literal (by decide +kernel))
    |>.rule reads_numeral
    |>.rule reads_operatorSigns
    |>.rule reads_punctuationMark

/-! ### Markup and data -/

instance readable_attributeValue : attributeValue.Readable :=
  readable_named _
    |>.rule (reads_literal (by decide +kernel))

instance readable_tagInside : tagInside.Readable :=
  readable_named _
    |>.rule (reads_literal (by decide +kernel))
    |>.rule (reads_literal (by decide +kernel))
    |>.nest (reads_literal (by decide +kernel)) readable_attributeValue
    |>.rule (reads_literal (by decide +kernel))

instance readable_markup : markup.Readable :=
  readable_named _
    |>.rule (reads_literal (by decide +kernel))
    |>.rule (reads_literal (by decide +kernel))
    |>.rule (reads_literal (by decide +kernel))
    |>.rule (reads_literal (by decide +kernel))
    |>.nest (reads_parts (by decide +kernel)) readable_tagInside
    |>.rule (reads_literal (by decide +kernel))

instance readable_css : css.Readable :=
  readable_named _
    |>.rule (reads_literal (by decide +kernel))
    |>.rule (reads_literal (by decide +kernel))
    |>.rule (reads_literal (by decide +kernel))
    |>.rule reads_doubleQuoted
    |>.rule reads_singleQuoted
    |>.rule (reads_literal (by decide +kernel))
    |>.rule (reads_literal (by decide +kernel))
    |>.rule (reads_literal (by decide +kernel))
    |>.rule (reads_literal (by decide +kernel))
    |>.rule (reads_literal (by decide +kernel))
    |>.rule (reads_literal (by decide +kernel))
    |>.rule (reads_literal (by decide +kernel))

instance readable_json : json.Readable :=
  readable_named _
    |>.rule (reads_literal (by decide +kernel))
    |>.rule (reads_literal (by decide +kernel))
    |>.rule reads_doubleQuoted
    |>.rule (reads_literal (by decide +kernel))
    |>.rule (reads_words (by repeat constructor) (by decide +kernel))
    |>.rule (reads_words (by repeat constructor) (by decide +kernel))
    |>.rule (reads_literal (by decide +kernel))
    |>.rule (reads_literal (by decide +kernel))

instance readable_yaml : yaml.Readable :=
  readable_named _
    |>.rule (reads_literal (by decide +kernel))
    |>.rule (reads_literal (by decide +kernel))
    |>.rule (reads_literal (by decide +kernel))
    |>.rule (reads_parts (by decide +kernel))
    |>.rule (reads_literal (by decide +kernel))
    |>.rule (reads_literal (by decide +kernel))
    |>.rule reads_doubleQuoted
    |>.rule (reads_literal (by decide +kernel))
    |>.rule (reads_literal (by decide +kernel))
    |>.rule (reads_literal (by decide +kernel))
    |>.rule reads_numeral
    |>.rule (reads_literal (by decide +kernel))

instance readable_sql : sql.Readable :=
  readable_named _
    |>.rule (reads_literal (by decide +kernel))
    |>.rule (reads_literal (by decide +kernel))
    |>.rule (reads_literal (by decide +kernel))
    |>.rule reads_doubleQuoted
    |>.rule (reads_literal (by decide +kernel))
    |>.rule (reads_parts (by decide +kernel))
    |>.rule (reads_literal (by decide +kernel))
    |>.rule (reads_markedWords (by repeat constructor) (by decide +kernel))
    |>.rule (reads_literal (by decide +kernel))
    |>.rule reads_numeral
    |>.rule (reads_literal (by decide +kernel))
    |>.rule (reads_literal (by decide +kernel))

theorem readable_of_mem_sources : ∀ source ∈ sources, source.2.Readable := by
  simp only [sources, List.forall_mem_cons]
  exact ⟨readable_bash, readable_c, readable_csharp, readable_css, readable_go, readable_java,
    readable_javascript, readable_json, readable_markup, readable_objectiveC, readable_perl,
    readable_php, readable_powershell, readable_python, readable_ruby, readable_rust, readable_sql,
    readable_typescript, readable_yaml, by simp⟩

end Highlight.Builtin
