/-!
# Languages

The languages offered for code blocks, by tag and display name in menu order.  One tag of the menu
stands for plain text.
-/

namespace Highlight.Language

def plainTag : String := "none"

def menu : List (String × String) :=
  [(plainTag, "None"), ("bash", "Bash"), ("css", "CSS"), ("clike", "C"), ("csharp", "C#"),
    ("go", "Go"), ("markup", "HTML"), ("objectivec", "Objective-C"), ("java", "Java"),
    ("javascript", "JavaScript"), ("json", "JSON"), ("perl", "Perl"), ("php", "PHP"),
    ("powershell", "Powershell"), ("python", "Python"), ("ruby", "Ruby"), ("rust", "Rust"),
    ("sql", "SQL"), ("typescript", "TypeScript"), ("yaml", "YAML")]

def name? (tag : String) : Option String := menu.lookup tag

def isPlain (tag : String) : Bool := tag.isEmpty || tag == plainTag

/-- Whether a region with this declared language is never highlighted. -/
def isPlain? : Option String → Bool
  | none => true
  | some tag => isPlain tag

end Highlight.Language
