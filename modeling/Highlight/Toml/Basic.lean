/-!
# TOML tables

The values of a TOML document, and how keys and headers build its tables.  A table knows how it came
about, for that decides what may still be added to it: a table written in braces is finished, one
with a header cannot get a second header, and one made by dotted keys takes dotted keys only.
-/

namespace Highlight.Toml

/-- Why a text is no TOML document. -/
inductive Error where
  | unexpected
  | badCharacter
  | badEscape
  | badScalar
  | repeatedKey
  /-- A key leads through something that is no table, or is a finished one. -/
  | notATable
  | nestedTooDeep
  deriving DecidableEq, Repr

/-- How a table came about. -/
inductive TableKind where
  /-- By the header of a table inside it. -/
  | implied
  | headed
  | dotted
  | inline
  deriving DecidableEq, Repr

/-- A value. -/
inductive Value where
  | text (s : String)
  | integer (n : Int)
  /-- A number that stands for no integer. -/
  | number
  | boolean (b : Bool)
  /-- A date, a time, or both. -/
  | moment
  /-- A list; one that is built by headers goes on as long as there are more of them. -/
  | list (byHeaders : Bool) (values : List Value)
  | table (kind : TableKind) (entries : List (String × Value))

/-- The keys of a table with their values, in order. -/
abbrev Entries := List (String × Value)

namespace Entries

/-- Puts a value in place of that of a key. -/
def replace (es : Entries) (k : String) (v : Value) : Entries :=
  es.map fun e => if e.1 == k then (k, v) else e

/-- Changes the value of a key, or gives it one. -/
def alter (es : Entries) (k : String) (f : Option Value → Except Error Value) :
    Except Error Entries :=
  match es.lookup k with
  | none => do return es ++ [(k, ← f none)]
  | some v => do return replace es k (← f (some v))

def insert : List String → Value → Entries → Except Error Entries
  | [], _, _ => .error .unexpected
  | [k], v, es =>
      alter es k fun
        | none => .ok v
        | some _ => .error .repeatedKey
  | k :: ks, v, es =>
      alter es k fun
        | none => do return .table .dotted (← insert ks v [])
        | some (.table .dotted sub) => do return .table .dotted (← insert ks v sub)
        | some _ => .error .notATable

/-- Changes the table that a header names: that of the last part of the key, or the last of a list
of tables. -/
def modify (f : Entries → Except Error Entries) : List String → Entries → Except Error Entries
  | [], es => f es
  | k :: ks, es =>
      alter es k fun
        | some (.table kind sub) => do return .table kind (← modify f ks sub)
        | some (.list true vs) =>
            match vs.getLast? with
            | some (.table kind sub) => do
                return .list true (vs.dropLast ++ [.table kind (← modify f ks sub)])
            | _ => .error .notATable
        | _ => .error .notATable

/-- Follows the key of a header, making tables on the way, and deals with its last part. -/
def follow (last : Option Value → Except Error Value) :
    List String → Entries → Except Error Entries
  | [], _ => .error .unexpected
  | [k], es => alter es k last
  | k :: ks, es =>
      alter es k fun
        | none => do return .table .implied (← follow last ks [])
        | some (.table .inline _) => .error .notATable
        | some (.table kind sub) => do return .table kind (← follow last ks sub)
        | some (.list true vs) =>
            match vs.getLast? with
            | some (.table kind sub) => do
                return .list true (vs.dropLast ++ [.table kind (← follow last ks sub)])
            | _ => .error .notATable
        | some _ => .error .notATable

def openTable (key : List String) (es : Entries) : Except Error Entries :=
  follow (fun
    | none => .ok (.table .headed [])
    | some (.table .implied sub) => .ok (.table .headed sub)
    | some _ => .error .repeatedKey) key es

/-- Opens another table in the list of a header in double brackets. -/
def openListed (key : List String) (es : Entries) : Except Error Entries :=
  follow (fun
    | none => .ok (.list true [.table .headed []])
    | some (.list true vs) => .ok (.list true (vs ++ [.table .headed []]))
    | some _ => .error .repeatedKey) key es

end Entries

end Highlight.Toml
