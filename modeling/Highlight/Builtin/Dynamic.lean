import Highlight.Builtin.Parts

/-!
# Dynamic languages

The grammars of Python, Ruby, Perl and PHP.
-/

namespace Highlight.Builtin

open Pattern (words)

def pythonKeywords : List String :=
  ["and", "as", "assert", "async", "await", "break", "class", "continue", "def", "del", "elif",
   "else", "except", "finally", "for", "from", "global", "if", "import", "in", "is", "lambda",
   "match", "nonlocal", "not", "or", "pass", "raise", "return", "try", "while", "with", "yield"]

def pythonBuiltins : List String :=
  ["abs", "all", "any", "bool", "bytes", "dict", "enumerate", "filter", "float", "format",
   "getattr", "hasattr", "input", "int", "isinstance", "iter", "len", "list", "map", "max", "min",
   "next", "object", "open", "print", "range", "repr", "reversed", "round", "set", "setattr",
   "sorted", "str", "sum", "super", "tuple", "type", "zip"]

def python : RuleSource :=
  withCommonTail
    (RuleTree.named "python"
      |>.rule "comment" hashComment
      |>.rule "string" "(?:\\b(?i:[rub]|rb|br))?(?:\"\"\"[\\s\\S]*?\"\"\"|'''[\\s\\S]*?''')"
      |>.nest "string" "\\b(?i:f|rf|fr)(?:\"(?:\\\\.|[^\"\\\\\\n])*\"|'(?:\\\\.|[^'\\\\\\n])*')"
          (interpolated "f-string" "\\\x7b[^\x7b\x7d]*\\\x7d" "\x7b")
      |>.rule "string" "\\b(?i:[rub]|rb|br)(?:\"(?:\\\\.|[^\"\\\\\\n])*\"|'(?:\\\\.|[^'\\\\\\n])*')"
      |>.rule "string" doubleQuoted
      |>.rule "string" singleQuoted
      |>.rule "decorator" "(?m)^[ \\t]*(?P<t>@[\\w.]+)")
    (words pythonKeywords) ["True", "False", "None"] pythonBuiltins

def rubyKeywords : List String :=
  ["BEGIN", "END", "alias", "and", "begin", "break", "case", "class", "def", "defined", "do",
   "else", "elsif", "end", "ensure", "for", "if", "in", "module", "next", "not", "or", "redo",
   "rescue", "retry", "return", "self", "super", "then", "undef", "unless", "until", "when",
   "while", "yield"]

def rubyBuiltins : List String :=
  ["attr_accessor", "attr_reader", "attr_writer", "include", "extend", "puts", "print", "require",
   "require_relative", "raise"]

def ruby : RuleSource :=
  withCommonTail
    (RuleTree.named "ruby"
      |>.rule "comment" "(?m)^=begin\\b[\\s\\S]*?^=end\\b.*|#.*"
      |>.nest "string" "\"(?:\\\\.|#\\\x7b[^\x7b\x7d]*\\\x7d|[^\"\\\\])*\""
          (interpolated "interpolated-string" "#\\\x7b[^\x7b\x7d]*\\\x7d" "#\x7b")
      |>.rule "string" singleQuoted
      |>.rule "symbol" "(?:^|[^:\\w])(?P<t>:[A-Za-z_]\\w*[?!]?)"
      |>.rule "variable" "@@?[A-Za-z_]\\w*|\\$[A-Za-z_]\\w*")
    (words rubyKeywords) ["true", "false", "nil"] rubyBuiltins

def perlKeywords : List String :=
  ["and", "cmp", "continue", "do", "else", "elsif", "eq", "for", "foreach", "ge", "gt", "if",
   "last", "le", "local", "lt", "my", "ne", "next", "no", "not", "or", "our", "package", "redo",
   "require", "return", "sub", "unless", "until", "use", "while", "xor"]

def perlBuiltins : List String :=
  ["chomp", "chop", "die", "exists", "join", "keys", "length", "open", "print", "printf", "push",
   "shift", "split", "values", "warn"]

def perl : RuleSource :=
  withCommonTail
    (RuleTree.named "perl"
      |>.rule "comment" "(?m)^=\\w+[\\s\\S]*?^=cut\\b.*|#.*"
      |>.nest "string" doubleQuoted
          (variablesInString "interpolated-string" "[$@]\\\x7b?[A-Za-z_]\\w*\\\x7d?")
      |>.rule "string" singleQuoted
      |>.rule "regex" (
          "\\b(?:m|qr)/(?:\\\\.|[^/\\\\\\n])*/[a-z]*|\\bs/(?:\\\\.|[^/\\\\\\n])*/(?:\\\\.|" ++
          "[^/\\\\\\n])*/[a-z]*")
      |>.rule "variable" "[$@%]\\\x7b?\\^?[A-Za-z_]\\w*(?:::\\w+)*\\\x7d?|\\$[0-9&`'+!@/\\\\,;.]")
    (words perlKeywords) [] perlBuiltins

def phpKeywords : List String :=
  ["abstract", "and", "array", "as", "break", "callable", "case", "catch", "class", "clone",
   "const", "continue", "declare", "default", "do", "echo", "else", "elseif", "empty", "enum",
   "extends", "final", "finally", "fn", "for", "foreach", "function", "global", "if", "implements",
   "include", "include_once", "instanceof", "interface", "isset", "list", "match", "namespace",
   "new", "or", "print", "private", "protected", "public", "readonly", "require", "require_once",
   "return", "static", "switch", "throw", "trait", "try", "unset", "use", "var", "while", "xor",
   "yield"]

def php : RuleSource :=
  withCommonTail
    (RuleTree.named "php"
      |>.rule "comment" "//.*|#.*|/\\*[\\s\\S]*?\\*/"
      |>.rule "delimiter" "<\\?(?:php\\b|=)?|\\?>"
      |>.nest "string" doubleQuoted (variablesInString "interpolated-string" "\\$[A-Za-z_]\\w*")
      |>.rule "string" singleQuoted
      |>.rule "variable" "\\$+[A-Za-z_]\\w*")
    ("(?i)" ++ words phpKeywords) ["true", "false", "null", "TRUE", "FALSE", "NULL"] []

end Highlight.Builtin
