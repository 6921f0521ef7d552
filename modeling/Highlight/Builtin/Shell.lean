import Highlight.Builtin.Parts

/-!
# Shells

The grammars of Bash and PowerShell.
-/

namespace Highlight.Builtin

open Pattern (words)

def bashKeywords : List String :=
  ["case", "do", "done", "elif", "else", "esac", "fi", "for", "function", "if", "in", "select",
   "then", "until", "while"]

def bashBuiltins : List String :=
  ["alias", "cd", "declare", "echo", "eval", "exec", "exit", "export", "local", "printf", "read",
   "readonly", "return", "set", "shift", "source", "test", "trap", "unset"]

def bashVariable : String :=
  "\\$(?:\\\x7b[^\x7d]*\\\x7d|[A-Za-z_]\\w*|[0-9#@?*!$-])"

def bash : RuleSource :=
  RuleTree.named "bash"
    |>.rule "shebang" "\\A#!.*"
    |>.rule "comment" "(?m)(?:^|[ \\t;])(?P<t>#.*)"
    |>.nest "string" doubleQuoted (variablesInString "interpolated-string" bashVariable)
    |>.rule "string" "'[^']*'"
    |>.rule "variable" bashVariable
    |>.rule "keyword" (words bashKeywords)
    |>.rule "boolean" (words ["true", "false"])
    |>.rule "builtin" (words bashBuiltins)
    |>.rule "function" "\\b(?P<t>[A-Za-z_][\\w-]*)\\s*\\(\\)"
    |>.rule "number" numeral
    |>.rule "operator" "&&|\\|\\||[|&;<>]=?|!=?|==?"
    |>.rule "punctuation" "[\x7b\x7d\\[\\]();]"

def powershellKeywords : List String :=
  ["begin", "break", "catch", "class", "continue", "data", "do", "dynamicparam", "else", "elseif",
   "end", "enum", "exit", "filter", "finally", "for", "foreach", "function", "if", "in", "param",
   "process", "return", "switch", "throw", "trap", "try", "until", "using", "while"]

def powershellVariable : String :=
  "\\$(?:\\\x7b[^\x7d]*\\\x7d|[\\w:?^$]+)"

def powershell : RuleSource :=
  RuleTree.named "powershell"
    |>.rule "comment" "<#[\\s\\S]*?#>|#.*"
    |>.nest "string" "\"(?:`[\\s\\S]|\"\"|[^\"`])*\""
        (variablesInString "interpolated-string" powershellVariable)
    |>.rule "string" "'(?:''|[^'])*'"
    |>.rule "boolean" "(?i)\\$(?:true|false|null)\\b"
    |>.rule "variable" powershellVariable
    |>.rule "keyword" ("(?i)" ++ words powershellKeywords)
    |>.rule "operator" (
        "(?i)-(?:eq|ne|gt|ge|lt|le|like|notlike|match|notmatch|contains|notcontains|in|" ++
        "notin|replace|and|or|not|xor|is|isnot|as)\\b")
    |>.rule "function" "\\b[A-Za-z]+-[A-Za-z]\\w*"
    |>.rule "number" numeral
    |>.rule "operator" operatorSigns
    |>.rule "punctuation" punctuationMark

end Highlight.Builtin
