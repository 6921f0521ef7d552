import Highlight.Builtin.Parts

/-!
# Systems languages

The grammars of C, Objective-C, Go and Rust.
-/

namespace Highlight.Builtin

open Pattern (words)

def cKeywords : List String :=
  ["auto", "break", "case", "char", "const", "continue", "default", "do", "double", "else", "enum",
   "extern", "float", "for", "goto", "if", "inline", "int", "long", "register", "restrict",
   "return", "short", "signed", "sizeof", "static", "struct", "switch", "typedef", "union",
   "unsigned", "void", "volatile", "while"]

def preprocessorLine : String :=
  "(?m)^[ \\t]*#[ \\t]*\\w+.*"

def c : RuleSource :=
  withCommonTail
    (RuleTree.named "clike"
      |>.rule "comment" braceComment
      |>.rule "macro" preprocessorLine
      |>.rule "string" doubleQuoted
      |>.rule "char" singleQuoted)
    (words cKeywords) ["true", "false", "NULL"] []

/-- The keywords that Objective-C has besides those of C. -/
def objectiveCKeywords : List String :=
  ["id", "in", "nil", "self", "super", "Class", "SEL", "BOOL"]

def objectiveC : RuleSource :=
  withCommonTail
    (RuleTree.named "objectivec"
      |>.rule "comment" braceComment
      |>.rule "macro" preprocessorLine
      |>.rule "string" "@?\"(?:\\\\.|[^\"\\\\\\n])*\""
      |>.rule "char" singleQuoted
      |>.rule "keyword" (
          "@(?:interface|implementation|end|protocol|property|synthesize|dynamic|selector|" ++
          "class|public|private|protected|optional|required|autoreleasepool|try|catch|" ++
          "finally|throw|encode)\\b"))
    (words (cKeywords ++ objectiveCKeywords)) ["YES", "NO", "true", "false", "NULL"] []

def goKeywords : List String :=
  ["break", "case", "chan", "const", "continue", "default", "defer", "else", "fallthrough", "for",
   "func", "go", "goto", "if", "import", "interface", "map", "package", "range", "return", "select",
   "struct", "switch", "type", "var"]

def goBuiltins : List String :=
  ["append", "bool", "byte", "cap", "close", "complex", "copy", "delete", "error", "float32",
   "float64", "imag", "int", "int8", "int16", "int32", "int64", "len", "make", "new", "panic",
   "print", "println", "real", "recover", "rune", "string", "uint", "uint8", "uint16", "uint32",
   "uint64", "uintptr"]

def go : RuleSource :=
  withCommonTail
    (RuleTree.named "go"
      |>.rule "comment" braceComment
      |>.rule "string" "`[^`]*`"
      |>.rule "string" doubleQuoted
      |>.rule "char" singleQuoted)
    (words goKeywords) ["true", "false", "nil", "iota"] goBuiltins

def rustKeywords : List String :=
  ["as", "async", "await", "break", "const", "continue", "crate", "dyn", "else", "enum", "extern",
   "fn", "for", "if", "impl", "in", "let", "loop", "match", "mod", "move", "mut", "pub", "ref",
   "return", "self", "Self", "static", "struct", "super", "trait", "type", "unsafe", "use", "where",
   "while"]

def rustPrimitives : List String :=
  ["bool", "char", "f32", "f64", "i8", "i16", "i32", "i64", "i128", "isize", "str", "u8", "u16",
   "u32", "u64", "u128", "usize"]

def rust : RuleSource :=
  withCommonTail
    (RuleTree.named "rust"
      |>.rule "comment" braceComment
      |>.rule "attribute" "#!?\\[[^\\]]*\\]"
      |>.rule "string" "b?r#\"[\\s\\S]*?\"#|b?r\"[^\"]*\""
      |>.rule "string" "b?\"(?:\\\\[\\s\\S]|[^\"\\\\])*\""
      |>.rule "char" (
          "b?'(?:\\\\(?:x[0-9a-fA-F]\x7b2\x7d|u\\\x7b[0-9a-fA-F]\x7b1,6\x7d\\\x7d|.)|" ++
          "[^'\\\\\\n])'")
      |>.rule "lifetime" "'[A-Za-z_]\\w*\\b"
      |>.rule "macro" "\\b[A-Za-z_]\\w*!")
    (words rustKeywords) ["true", "false"] rustPrimitives

end Highlight.Builtin
