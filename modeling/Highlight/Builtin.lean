import Highlight.Builtin.Dynamic
import Highlight.Builtin.Managed
import Highlight.Builtin.Markup
import Highlight.Builtin.Shell
import Highlight.Builtin.Systems
import Highlight.Grammar.Scan

/-!
# Built-in grammars

The rule trees that come with the library, by language tag.
-/

namespace Highlight.Builtin

def sources : List (String × RuleSource) :=
  [("bash", bash), ("clike", c), ("csharp", csharp), ("css", css), ("go", go), ("java", java),
    ("javascript", javascript), ("json", json), ("markup", markup), ("objectivec", objectiveC),
    ("perl", perl), ("php", php), ("powershell", powershell), ("python", python), ("ruby", ruby),
    ("rust", rust), ("sql", sql), ("typescript", typescript), ("yaml", yaml)]

def source? (tag : String) : Option RuleSource := sources.lookup tag

def provides (tag : String) : Bool := (source? tag).isSome

def rules? (tag : String) : Option (Except GrammarError RuleGrammar) :=
  (source? tag).map RuleTree.compile

/-- The grammar of a tag, as a load gives it. -/
def load (tag : String) : Except GrammarError Grammar :=
  match rules? tag with
  | none => .error (.notFound tag)
  | some (.error e) => .error e
  | some (.ok t) => .ok t.toGrammar

end Highlight.Builtin
