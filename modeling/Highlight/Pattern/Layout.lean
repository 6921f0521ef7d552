import Highlight.Text.Blank

/-!
# Free layout

In a pattern with free layout, blanks and comments mean nothing.  A comment starts with a hash and
ends with its line.
-/

namespace Highlight.Pattern

/-- Drops blanks and comments, from inside a comment or from outside of it. -/
def skipLayout : (inComment : Bool) → List Char → List Char
  | _, [] => []
  | true, c :: cs => skipLayout (c != '\n') cs
  | false, c :: cs =>
      if c == '#' then skipLayout true cs
      else if Text.isBlank c then skipLayout false cs
      else c :: cs

/-- Drops blanks and comments if the layout is free. -/
def skipIf (verbose : Bool) (cs : List Char) : List Char :=
  if verbose then skipLayout false cs else cs

/-- Takes `n` characters, each of them after the layout in front of it. -/
def takeSpaced? (verbose : Bool) : Nat → List Char → Option (List Char × List Char)
  | 0, cs => some ([], cs)
  | n + 1, cs =>
      match skipIf verbose cs with
      | [] => none
      | c :: cs => (takeSpaced? verbose n cs).map fun (taken, rest) => (c :: taken, rest)

/-- Splits at the closing brace, leaving out the layout in front of it. -/
def splitAtBrace? (verbose : Bool) : (inComment : Bool) → List Char → Option (List Char × List Char)
  | _, [] => none
  | true, c :: cs => splitAtBrace? verbose (c != '\n') cs
  | false, c :: cs =>
      if c == '}' then some ([], cs)
      else if verbose && (c == '#' || Text.isBlank c) then splitAtBrace? verbose (c == '#') cs
      else (splitAtBrace? verbose false cs).map fun (taken, rest) => (c :: taken, rest)

/-- The character that tells whether a hyphen in front of `cs` makes a range: the first that is no
blank and no start of a comment, or the very first. -/
def afterHyphen (verbose : Bool) (cs : List Char) : Option Char :=
  if verbose then
    match cs.dropWhile Text.isBlank with
    | [] => cs.head?
    | '#' :: comment => (comment.dropWhile Text.isBlank).head? <|> cs.head?
    | c :: _ => some c
  else cs.head?

end Highlight.Pattern
