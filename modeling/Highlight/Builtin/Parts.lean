import Highlight.Grammar.Rules

/-!
# Parts of the built-in grammars

Patterns and rules that several languages share.
-/

namespace Highlight.Builtin

open Pattern (escape words)

/-- Comments to the end of the line or between slashes with stars. -/
def braceComment : String :=
  "//.*|/\\*[\\s\\S]*?\\*/"

/-- Comments from a hash to the end of the line. -/
def hashComment : String :=
  "#.*"

def doubleQuoted : String :=
  "\"(?:\\\\.|[^\"\\\\\\n])*\""

def singleQuoted : String :=
  "'(?:\\\\.|[^'\\\\\\n])*'"

def numeral : String :=
  "\\b0[xX][\\da-fA-F_]+\\b|\\b0[bB][01_]+\\b|(?:\\b\\d[\\d_]*(?:\\.\\d[\\d_]*)?|" ++
    "\\B\\.\\d+)(?:[eE][+-]?\\d+)?\\b"

/-- A name in front of an opening parenthesis. -/
def functionName : String :=
  "\\b(?P<t>[A-Za-z_]\\w*)\\s*\\("

def identifier : String :=
  "\\b[A-Za-z_]\\w*\\b"

def operatorSigns : String :=
  "[-+*/%=!<>&|^~?]+"

def punctuationMark : String :=
  "[\x7b\x7d\\[\\]();,.:]"

/-- A name after a word that declares or extends a type. -/
def className : String :=
  "\\b(?:class|struct|interface|enum|trait|type|impl|new|extends|" ++
    "implements)\\s+(?P<t>[A-Za-z_]\\w*)"

/-- A rule for a list of words, if it has any. -/
def wordRule (label : String) (ws : List String) : List (Rule String) :=
  if ws.isEmpty then [] else [.mk label (words ws) .token]

/-- Adds the rules that most languages end with: names of types, keywords, constants, built-in
names, functions, numbers, names, operators and punctuation. -/
def withCommonTail (t : RuleSource) (keywords : String) (constants builtins : List String) :
    RuleSource :=
  ((t
    |>.rule "class-name" className
    |>.rule "keyword" keywords).addRules
      (wordRule "boolean" constants ++ wordRule "builtin" builtins))
    |>.rule "function" functionName
    |>.rule "number" numeral
    |>.rule "identifier" identifier
    |>.rule "operator" operatorSigns
    |>.rule "punctuation" punctuationMark

/-- The inside of an interpolation that starts with `opening` and ends with a brace; between them
stands text of the whole language. -/
def interpolation (opening : String) : RuleSource :=
  (RuleTree.named "interpolation"
    |>.rule "punctuation" ("^" ++ escape opening ++ "|\\\x7d$")).withRestToRoot

/-- The inside of a string with interpolations that match `pattern` and start with `opening`. -/
def interpolated (name pattern opening : String) : RuleSource :=
  (RuleTree.named name).nest "interpolation" pattern (interpolation opening)

/-- The inside of a string in which variables stand out. -/
def variablesInString (name pattern : String) : RuleSource :=
  (RuleTree.named name).rule "variable" pattern

end Highlight.Builtin
