import Highlight.Toml.Scalar

/-!
# Reading TOML documents

`ofString` reads a document into the entries of its root table.
-/

namespace Highlight.Toml

def skipComment : List Char → Except Error (List Char)
  | '#' :: cs =>
      let body := cs.takeWhile fun c => c != '\n'
      let rest := cs.drop body.length
      let body := if body.getLast? == some '\r' && !rest.isEmpty then body.dropLast else body
      if body.any isControl then .error .badCharacter else .ok rest
  | cs => .ok cs

/-- Drops blanks, line breaks and comments, from inside a comment or from outside of it. -/
def skipSpaceFrom : (inComment : Bool) → List Char → Except Error (List Char)
  | _, [] => .ok []
  | _, '\n' :: cs => skipSpaceFrom false cs
  | _, '\r' :: '\n' :: cs => skipSpaceFrom false cs
  | true, c :: cs => if isControl c then .error .badCharacter else skipSpaceFrom true cs
  | false, c :: cs =>
      if isBlank c then skipSpaceFrom false cs
      else if c == '#' then skipSpaceFrom true cs
      else .ok (c :: cs)

def skipSpace (cs : List Char) : Except Error (List Char) := skipSpaceFrom false cs

/-- Whether a character can stand in a key without quotes. -/
def isKeyChar (c : Char) : Bool := c.isAlphanum || c == '_' || c == '-'

/-- Reads one part of a key. -/
def readKeyPart : List Char → Except Error (String × List Char)
  | '"' :: cs => readLine '"' true (cs.length + 1) [] cs
  | '\'' :: cs => readLine '\'' false (cs.length + 1) [] cs
  | cs =>
      let word := cs.takeWhile isKeyChar
      if word.isEmpty then .error .unexpected
      else .ok (String.ofList word, cs.drop word.length)

/-- Reads a key; its parts are separated by dots. -/
def readKey : Nat → List Char → Except Error (List String × List Char)
  | 0, _ => .error .unexpected
  | fuel + 1, cs => do
      let (part, rest) ← readKeyPart cs
      match skipBlanks rest with
      | '.' :: rest => do
          let (parts, rest) ← readKey fuel (skipBlanks rest)
          return (part :: parts, rest)
      | rest => return ([part], rest)

/-- How deep lists and tables in braces can nest. -/
def maxNesting : Nat := 80

mutual

/-- Reads a value; lists and tables in it can nest `room` deep. -/
def readValue : Nat → (room : Nat) → List Char → Except Error (Value × List Char)
  | 0, _, _ => .error .unexpected
  | fuel + 1, room, cs =>
      match cs, room with
      | '[' :: _, 0 => .error .nestedTooDeep
      | '{' :: _, 0 => .error .nestedTooDeep
      | '[' :: rest, room + 1 => do
          let (vs, rest) ← readElements fuel room [] rest
          return (.list false vs, rest)
      | '{' :: rest, room + 1 => do
          let (es, rest) ← readPairs fuel room [] rest
          return (.table .inline es, rest)
      | '"' :: _, _ => do
          let (s, rest) ← readString cs
          return (.text s, rest)
      | '\'' :: _, _ => do
          let (s, rest) ← readString cs
          return (.text s, rest)
      | cs, _ => readScalar cs

/-- Reads the elements of a list up to its closing bracket. -/
def readElements :
    Nat → (room : Nat) → List Value → List Char → Except Error (List Value × List Char)
  | 0, _, _, _ => .error .unexpected
  | fuel + 1, room, acc, cs => do
      match ← skipSpace cs with
      | ']' :: rest => return (acc.reverse, rest)
      | cs => do
          let (v, rest) ← readValue fuel room cs
          match ← skipSpace rest with
          | ',' :: rest => readElements fuel room (v :: acc) rest
          | ']' :: rest => return ((v :: acc).reverse, rest)
          | _ => throw .unexpected

/-- Reads the pairs of a table in braces up to the closing one. -/
def readPairs : Nat → (room : Nat) → Entries → List Char → Except Error (Entries × List Char)
  | 0, _, _, _ => .error .unexpected
  | fuel + 1, room, es, cs => do
      match ← skipSpace cs with
      | '}' :: rest => return (es, rest)
      | cs => do
          let (es, rest) ← readPair fuel room es cs
          match ← skipSpace rest with
          | ',' :: rest => readPairs fuel room es rest
          | '}' :: rest => return (es, rest)
          | _ => throw .unexpected

/-- Reads a key and its value into a table in braces; around the equals sign a line can end. -/
def readPair : Nat → (room : Nat) → Entries → List Char → Except Error (Entries × List Char)
  | 0, _, _, _ => .error .unexpected
  | fuel + 1, room, es, cs => do
      let (key, rest) ← readKey fuel cs
      match ← skipSpace rest with
      | '=' :: rest => do
          let (v, rest) ← readValue fuel room (← skipSpace rest)
          return (← es.insert key v, rest)
      | _ => throw .unexpected

end

/-- The rest after the end of a line: blanks, a comment and a line break, or the end of the text. -/
def endLine (cs : List Char) : Except Error (List Char) := do
  let cs ← skipComment (skipBlanks cs)
  match cs with
  | [] => return []
  | cs =>
      match newline? cs with
      | some rest => return rest
      | none => throw .unexpected

/-- Reads a header from after its first bracket; the answer is the key and the root table with the
header's table. -/
def readHeader (es : Entries) :
    List Char → Except Error ((List String × Entries) × List Char)
  | '[' :: cs => do
      let (key, rest) ← readKey cs.length (skipBlanks cs)
      match skipBlanks rest with
      | ']' :: ']' :: rest => return ((key, ← es.openListed key), rest)
      | _ => throw .unexpected
  | cs => do
      let (key, rest) ← readKey cs.length (skipBlanks cs)
      match skipBlanks rest with
      | ']' :: rest => return ((key, ← es.openTable key), rest)
      | _ => throw .unexpected

/-- Reads the lines of a document; pairs go into the table of the latest header. -/
def readDocument : Nat → List String → Entries → List Char → Except Error Entries
  | 0, _, es, _ => .ok es
  | fuel + 1, header, es, cs => do
      match ← skipSpace cs with
      | [] => return es
      | '[' :: rest => do
          let ((header, es), rest) ← readHeader es rest
          readDocument fuel header es (← endLine rest)
      | cs => do
          let (key, rest) ← readKey (fuel + 1) cs
          match skipBlanks rest with
          | '=' :: rest => do
              let (v, rest) ← readValue (fuel + 1) maxNesting (skipBlanks rest)
              let es ← Entries.modify (Entries.insert key v) header es
              readDocument fuel header es (← endLine rest)
          | _ => throw .unexpected

/-- Reads a document; a byte order mark in front of it is dropped. -/
def ofString (s : String) : Except Error Entries :=
  let cs := s.toList
  let cs := if cs.head? == some '\ufeff' then cs.drop 1 else cs
  readDocument (cs.length + 1) [] [] cs

end Highlight.Toml
