import Highlight.Builtin.Parts

/-!
# Markup and data

The grammars of HTML, CSS, JSON, YAML and SQL.
-/

namespace Highlight.Builtin

open Pattern (words)

def attributeValue : RuleSource :=
  (RuleTree.named "attr-value").rule "punctuation" "^=\\s*[\"']?|[\"']$"

def tagInside : RuleSource :=
  RuleTree.named "tag"
    |>.rule "punctuation" "^</?|/?>$"
    |>.rule "name" "^</?(?P<t>[^\\s>/]+)"
    |>.nest "attr-value" "=\\s*(?:\"[^\"]*\"|'[^']*'|[^\\s'\">=]+)" attributeValue
    |>.rule "attr-name" "[^\\s/>=]+"

def markup : RuleSource :=
  RuleTree.named "markup"
    |>.rule "comment" "<!--[\\s\\S]*?-->"
    |>.rule "prolog" "<\\?[\\s\\S]+?\\?>"
    |>.rule "doctype" "(?i)<!DOCTYPE[^>]*>"
    |>.rule "cdata" "(?i)<!\\[CDATA\\[[\\s\\S]*?\\]\\]>"
    |>.nest "tag" ("</?[A-Za-z][\\w:.-]*(?:\\s+[^\\s/>=]+(?:\\s*=\\s*(?:\"[^\"]*\"|'[^']*'|" ++
        "[^\\s'\">=]+))?)*\\s*/?>")
        tagInside
    |>.rule "entity" "&#?[\\da-zA-Z]\x7b1,8\x7d;"

def css : RuleSource :=
  RuleTree.named "css"
    |>.rule "comment" "/\\*[\\s\\S]*?\\*/"
    |>.rule "atrule" "@[\\w-]+"
    |>.rule "url" "(?i)\\burl\\((?:\"[^\"]*\"|'[^']*'|[^)]*)\\)"
    |>.rule "string" doubleQuoted
    |>.rule "string" singleQuoted
    |>.rule "selector" "(?P<t>[^\x7b\x7d\\s;@/][^\x7b\x7d;@]*?)\\s*\\\x7b"
    |>.rule "property" "(?P<t>-?-?[A-Za-z][\\w-]*)\\s*:"
    |>.rule "important" "(?i)!important\\b"
    |>.rule "hexcode" "#[\\da-fA-F]\x7b3,8\x7d\\b"
    |>.rule "function" "\\b(?P<t>[A-Za-z][\\w-]*)\\("
    |>.rule "number" "\\b\\d+(?:\\.\\d+)?(?:%|[A-Za-z]+)?|\\B\\.\\d+(?:%|[A-Za-z]+)?"
    |>.rule "punctuation" "[()\x7b\x7d;:,]"

def json : RuleSource :=
  RuleTree.named "json"
    |>.rule "comment" "//.*|/\\*[\\s\\S]*?\\*/"
    |>.rule "property" "(?P<t>\"(?:\\\\.|[^\"\\\\\\n])*\")\\s*:"
    |>.rule "string" doubleQuoted
    |>.rule "number" "-?\\b\\d+(?:\\.\\d+)?(?:[eE][+-]?\\d+)?\\b"
    |>.rule "boolean" (words ["true", "false"])
    |>.rule "null" (words ["null"])
    |>.rule "operator" ":"
    |>.rule "punctuation" "[\x7b\x7d\\[\\],]"

def yaml : RuleSource :=
  RuleTree.named "yaml"
    |>.rule "comment" "(?m)(?:^|[ \\t])(?P<t>#.*)"
    |>.rule "directive" "(?m)^%.*"
    |>.rule "punctuation" "(?m)^(?:---|\\.\\.\\.)"
    |>.rule "key" (
        "(?m)(?P<t>\"[^\"\\n]*\"|'[^'\\n]*'|" ++
        "[^\\s#:\\[\\]\x7b\x7d,'\"-][^\\n#:]*?)[ \\t]*:(?:[ \\t]|$)")
    |>.rule "variable" "[&*][\\w-]+"
    |>.rule "tag" "!!?[\\w-]*"
    |>.rule "string" doubleQuoted
    |>.rule "string" "'(?:''|[^'\\n])*'"
    |>.rule "boolean" "(?i)\\b(?:true|false|yes|no|on|off)\\b"
    |>.rule "null" "\\bnull\\b|~"
    |>.rule "number" numeral
    |>.rule "punctuation" "(?m)^[ \\t]*(?P<t>-)(?:[ \\t]|$)|[\\[\\]\x7b\x7d,]|[|>][-+]?"

def sqlKeywords : List String :=
  ["add", "all", "alter", "as", "asc", "begin", "by", "case", "cascade", "check", "column",
   "commit", "constraint", "create", "cross", "database", "default", "delete", "desc", "distinct",
   "drop", "else", "end", "exists", "foreign", "from", "full", "group", "having", "if", "index",
   "inner", "insert", "into", "join", "key", "left", "limit", "offset", "on", "order", "outer",
   "primary", "references", "right", "rollback", "select", "set", "table", "then", "top",
   "transaction", "truncate", "union", "unique", "update", "values", "view", "when", "where",
   "with"]

def sql : RuleSource :=
  RuleTree.named "sql"
    |>.rule "comment" "--.*|#.*|/\\*[\\s\\S]*?\\*/"
    |>.rule "variable" "@[\\w.$]+"
    |>.rule "string" "'(?:''|\\\\.|[^'\\\\])*'"
    |>.rule "string" doubleQuoted
    |>.rule "identifier" "`[^`]*`"
    |>.rule "function" (
        "(?i)\\b(?P<t>avg|coalesce|count|first|format|last|lcase|len|lower|max|mid|min|mod|" ++
        "now|round|sum|ucase|upper)\\s*\\(")
    |>.rule "operator" "(?i)\\b(?:and|between|div|in|ilike|is|like|not|or|regexp|rlike|xor)\\b"
    |>.rule "keyword" ("(?i)" ++ words sqlKeywords)
    |>.rule "boolean" "(?i)\\b(?:true|false|null)\\b"
    |>.rule "number" numeral
    |>.rule "operator" "[-+*/=%^~]|&&?|\\|\\|?|!=?|<(?:=>?|<|>)?|>[>=]?"
    |>.rule "punctuation" "[;\\[\\]().,]"

end Highlight.Builtin
