import Highlight.Builtin.Parts

/-!
# Languages of managed runtimes

The grammars of C#, Java, JavaScript and TypeScript.
-/

namespace Highlight.Builtin

open Pattern (words)

def csharpKeywords : List String :=
  ["abstract", "as", "async", "await", "base", "bool", "break", "byte", "case", "catch", "char",
   "checked", "class", "const", "continue", "decimal", "default", "delegate", "do", "double",
   "else", "enum", "event", "explicit", "extern", "finally", "fixed", "float", "for", "foreach",
   "get", "goto", "if", "implicit", "in", "int", "interface", "internal", "is", "lock", "long",
   "namespace", "new", "object", "operator", "out", "override", "params", "private", "protected",
   "public", "readonly", "record", "ref", "return", "sbyte", "sealed", "set", "short", "sizeof",
   "stackalloc", "static", "string", "struct", "switch", "this", "throw", "try", "typeof", "uint",
   "ulong", "unchecked", "unsafe", "ushort", "using", "var", "virtual", "void", "volatile", "when",
   "where", "while", "yield"]

def csharp : RuleSource :=
  withCommonTail
    (RuleTree.named "csharp"
      |>.rule "comment" braceComment
      |>.rule "macro" "(?m)^[ \\t]*#[ \\t]*\\w+.*"
      |>.nest "string" "\\$@?\"(?:\\\x7b[^\x7b\x7d\"]*\\\x7d|\"\"|\\\\.|[^\"\\\\\x7b])*\""
          (interpolated "interpolated-string" "\\\x7b[^\x7b\x7d]*\\\x7d" "\x7b")
      |>.rule "string" "@\"(?:\"\"|[^\"])*\""
      |>.rule "string" doubleQuoted
      |>.rule "char" singleQuoted
      |>.rule "attribute" "(?m)^[ \\t]*\\[(?P<t>[A-Za-z_][\\w.]*)")
    (words csharpKeywords) ["true", "false", "null"] []

def javaKeywords : List String :=
  ["abstract", "assert", "boolean", "break", "byte", "case", "catch", "char", "class", "const",
   "continue", "default", "do", "double", "else", "enum", "exports", "extends", "final", "finally",
   "float", "for", "goto", "if", "implements", "import", "instanceof", "int", "interface", "long",
   "module", "native", "new", "non-sealed", "package", "permits", "private", "protected", "public",
   "record", "requires", "return", "sealed", "short", "static", "strictfp", "super", "switch",
   "synchronized", "this", "throw", "throws", "transient", "try", "var", "void", "volatile",
   "while", "yield"]

def java : RuleSource :=
  withCommonTail
    (RuleTree.named "java"
      |>.rule "comment" braceComment
      |>.rule "string" "\"\"\"[\\s\\S]*?\"\"\""
      |>.rule "string" doubleQuoted
      |>.rule "char" singleQuoted
      |>.rule "annotation" "@\\w+")
    (words javaKeywords) ["true", "false", "null"] []

def javascriptKeywords : List String :=
  ["as", "async", "await", "break", "case", "catch", "class", "const", "continue", "debugger",
   "default", "delete", "do", "else", "export", "extends", "finally", "for", "from", "function",
   "get", "if", "import", "in", "instanceof", "let", "new", "of", "return", "set", "static",
   "super", "switch", "this", "throw", "try", "typeof", "var", "void", "while", "with", "yield"]

def javascriptConstants : List String :=
  ["true", "false", "null", "undefined", "NaN", "Infinity"]

/-- The keywords that TypeScript has besides those of JavaScript. -/
def typescriptKeywords : List String :=
  ["abstract", "declare", "enum", "implements", "interface", "is", "keyof", "module", "namespace",
   "private", "protected", "public", "readonly", "satisfies", "type"]

def templateString : String :=
  "`(?:\\\\[\\s\\S]|[^\\\\`])*`"

def insideTemplate : RuleSource :=
  interpolated "template-string" "\\$\\\x7b[^\x7b\x7d]*\\\x7d" "$\x7b"

def javascript : RuleSource :=
  withCommonTail
    (RuleTree.named "javascript"
      |>.rule "comment" braceComment
      |>.nest "template-string" templateString insideTemplate
      |>.rule "string" doubleQuoted
      |>.rule "string" singleQuoted)
    (words javascriptKeywords) javascriptConstants
    ["console", "window", "document", "globalThis", "require", "module"]

def typescript : RuleSource :=
  withCommonTail
    (RuleTree.named "typescript"
      |>.rule "comment" braceComment
      |>.nest "template-string" templateString insideTemplate
      |>.rule "string" doubleQuoted
      |>.rule "string" singleQuoted
      |>.rule "decorator" "@[A-Za-z_]\\w*")
    (words (javascriptKeywords ++ typescriptKeywords)) javascriptConstants
    ["any", "bigint", "boolean", "never", "number", "object", "string", "symbol", "unknown",
     "console"]

end Highlight.Builtin
