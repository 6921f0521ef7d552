import Highlight.Toml.Basic

/-!
# TOML strings, numbers and times

Readers for the values that are no tables or lists, in version 1.1 of the format.
-/

namespace Highlight.Toml

/-- Whether a character may not stand in a comment or a string. -/
def isControl (c : Char) : Bool := (c.val < 32 && c != '\t') || c == '\x7f'

/-- Whether a character is a blank within a line. -/
def isBlank (c : Char) : Bool := c == ' ' || c == '\t'

def skipBlanks (cs : List Char) : List Char := cs.dropWhile isBlank

/-- The rest after a line break, if there is one. -/
def newline? : List Char → Option (List Char)
  | '\n' :: cs => some cs
  | '\r' :: '\n' :: cs => some cs
  | _ => none

/-- The value of a digit in a base. -/
def digit? (base : Nat) (c : Char) : Option Nat :=
  let n :=
    if '0' ≤ c && c ≤ '9' then c.toNat - '0'.toNat
    else if 'a' ≤ c && c ≤ 'f' then c.toNat - 'a'.toNat + 10
    else if 'A' ≤ c && c ≤ 'F' then c.toNat - 'A'.toNat + 10
    else base
  if n < base then some n else none

/-- The number that digits in a base stand for, if they are all digits and there are any. -/
def digits? (base : Nat) : List Char → Option Nat
  | [] => none
  | cs => cs.foldl (fun n c => do return (← n) * base + (← digit? base c)) (some 0)

/-- Whether a character is a digit in a base. -/
def isDigitIn (base : Nat) (c : Char) : Bool := (digit? base c).isSome

/-- Whether every underscore has a digit behind it and a digit in front of it; `before` says whether
one may come first. -/
def separatesDigits (base : Nat) : (before : Bool) → List Char → Bool
  | _, [] => true
  | before, c :: cs =>
      if c == '_' then before && cs.head?.any (isDigitIn base) && separatesDigits base false cs
      else separatesDigits base (isDigitIn base c) cs

/-- Whether the underscores of a number are in place: none comes first, and any other has a digit
behind it and a digit, or the first character of the number, in front of it. -/
def underscoresFit (base : Nat) : List Char → Bool
  | [] => true
  | c :: cs => c != '_' && separatesDigits base true cs

def dropUnderscores (cs : List Char) : List Char := cs.filter (· != '_')

/-- The sign of a number, if it has one, and the number without it. -/
def splitSign : List Char → Option Int × List Char
  | '-' :: cs => (some (-1), cs)
  | '+' :: cs => (some 1, cs)
  | cs => (none, cs)

/-- The value of a number's digits, which have a value only if they are all digits and there are
any. -/
def numberOf (sign : Int) (base : Nat) (digits : List Char) : Value :=
  match digits? base (dropUnderscores digits) with
  | some n => .integer (sign * Int.ofNat n)
  | none => .number

/-- Reads the digits of an integer in base 16, 8 or 2; there may be none. -/
def radixed? (base : Nat) (cs : List Char) : Option Value :=
  if cs.all (fun c => c == '_' || isDigitIn base c) && underscoresFit base cs then
    some (numberOf 1 base cs)
  else none

/-- The rest after digits and underscores, with at least one digit among them; several of them start
with a zero only if `zeros`. -/
def figures? (zeros : Bool) (cs : List Char) : Option (List Char) :=
  let run := cs.takeWhile fun c => c.isDigit || c == '_'
  let count := (run.filter Char.isDigit).length
  if count == 0 || (!zeros && 1 < count && run.head? == some '0') then none
  else some (cs.drop run.length)

def isExponentMark (c : Char) : Bool := c == 'e' || c == 'E'

/-- Whether a text without a sign has the parts of a number that is no integer: a mantissa, a
fraction and an exponent. -/
def isFloat (cs : List Char) : Bool :=
  let fraction? : List Char → Option (List Char)
    | '.' :: cs => figures? true cs
    | cs => some cs
  let exponent? : List Char → Option (List Char)
    | [] => some []
    | c :: cs => if isExponentMark c then figures? true (splitSign cs).2 else none
  (do exponent? (← fraction? (← figures? false cs))) == some []

/-- Reads a number in base 10; `body` is the text without its sign.  What comes after the last
underscore of an integer need not be a number, which then has no value. -/
def decimal? (sign : Option Int) (cs body : List Char) : Option Value :=
  let rest := body.dropWhile Char.isDigit
  if rest.any (fun c => c == '.' || isExponentMark c) then
    if isFloat body && underscoresFit 10 cs then some .number else none
  else
    let leads := body.head? == some '0' && 1 < body.length
    let starts := rest.isEmpty || rest.head? == some '_'
    if !body.isEmpty && !leads && starts && underscoresFit 16 cs then
      some (numberOf (sign.getD 1) 10 body)
    else none

def number? (cs : List Char) : Option Value :=
  match splitSign cs with
  | (none, '0' :: 'x' :: digits) => radixed? 16 digits
  | (none, '0' :: 'o' :: digits) => radixed? 8 digits
  | (none, '0' :: 'b' :: digits) => radixed? 2 digits
  | (sign, body) =>
      if body == "inf".toList || body == "nan".toList then some .number else decimal? sign cs body

/-- The number that exactly `n` digits stand for, with the rest of the text. -/
def fixed? (n : Nat) (cs : List Char) : Option (Nat × List Char) :=
  if cs.length < n then none else (digits? 10 (cs.take n)).map fun k => (k, cs.drop n)

def daysIn (year month : Nat) : Nat :=
  match month with
  | 2 => if year % 4 == 0 && (year % 100 != 0 || year % 400 == 0) then 29 else 28
  | 4 => 30
  | 6 => 30
  | 9 => 30
  | 11 => 30
  | _ => 31

def date? (cs : List Char) : Option (List Char) := do
  let (year, cs) ← fixed? 4 cs
  let '-' :: cs := cs | none
  let (month, cs) ← fixed? 2 cs
  let '-' :: cs := cs | none
  let (day, cs) ← fixed? 2 cs
  if 1 ≤ month && month ≤ 12 && 1 ≤ day && day ≤ daysIn year month then some cs else none

/-- The rest after the fraction of a second, if there is one. -/
def fraction? : List Char → Option (List Char)
  | '.' :: cs =>
      let ds := cs.takeWhile Char.isDigit
      if ds.isEmpty then none else some (cs.drop ds.length)
  | cs => some cs

/-- The rest after a time of day; seconds may be left out. -/
def time? (cs : List Char) : Option (List Char) := do
  let (hour, cs) ← fixed? 2 cs
  let ':' :: cs := cs | none
  let (minute, cs) ← fixed? 2 cs
  if 23 < hour || 59 < minute then none
  else
    match cs with
    | ':' :: cs => do
        let (second, cs) ← fixed? 2 cs
        if 60 < second then none else fraction? cs
    | cs => some cs

/-- Whether a text is the offset of a time, or nothing. -/
def isOffset : List Char → Bool
  | [] => true
  | ['Z'] => true
  | ['z'] => true
  | c :: cs =>
      (c == '+' || c == '-') &&
        match fixed? 2 cs with
        | some (hour, ':' :: cs) =>
            match fixed? 2 cs with
            | some (minute, []) => hour ≤ 23 && minute ≤ 59
            | _ => false
        | _ => false

/-- Whether a text is a date, a time, or both. -/
def isMoment (cs : List Char) : Bool :=
  match date? cs with
  | some [] => true
  | some (c :: rest) =>
      (c == 'T' || c == 't' || c == ' ') &&
        match time? rest with
        | some rest => isOffset rest
        | none => false
  | none => time? cs == some []

/-- The value that a text without quotes stands for. -/
def scalar? (cs : List Char) : Option Value :=
  if cs == "true".toList then some (.boolean true)
  else if cs == "false".toList then some (.boolean false)
  else if isMoment cs then some .moment
  else number? cs

/-- Whether a character can stand in a value without quotes. -/
def isScalarChar (c : Char) : Bool :=
  !(isBlank c || ['=', ',', '[', ']', '{', '}', '#', '\r', '\n'].contains c)

/-- Reads a value without quotes; a date and a time may stand apart. -/
def readScalar (cs : List Char) : Except Error (Value × List Char) :=
  let word := cs.takeWhile isScalarChar
  let rest := cs.drop word.length
  let apart :=
    match rest with
    | ' ' :: c :: _ => date? word == some [] && c.isDigit
    | _ => false
  let (word, rest) :=
    if apart then
      let time := (rest.drop 1).takeWhile isScalarChar
      (word ++ ' ' :: time, rest.drop (1 + time.length))
    else (word, rest)
  match scalar? word with
  | some v => .ok (v, rest)
  | none => .error .badScalar

/-- Reads the code point that some hexadecimal digits stand for. -/
def readCode (n : Nat) (cs : List Char) : Except Error (Char × List Char) :=
  if cs.length < n then .error .badEscape
  else
    match digits? 16 (cs.take n) with
    | some k => if k.isValidChar then .ok (Char.ofNat k, cs.drop n) else .error .badEscape
    | none => .error .badEscape

def readEscape : List Char → Except Error (Char × List Char)
  | 'b' :: cs => .ok ('\x08', cs)
  | 't' :: cs => .ok ('\t', cs)
  | 'n' :: cs => .ok ('\n', cs)
  | 'f' :: cs => .ok ('\x0c', cs)
  | 'r' :: cs => .ok ('\r', cs)
  | 'e' :: cs => .ok ('\x1b', cs)
  | '"' :: cs => .ok ('"', cs)
  | '\\' :: cs => .ok ('\\', cs)
  | 'x' :: cs => readCode 2 cs
  | 'u' :: cs => readCode 4 cs
  | 'U' :: cs => readCode 8 cs
  | _ => .error .badEscape

def skipLines : List Char → List Char
  | [] => []
  | '\r' :: '\n' :: cs => skipLines cs
  | c :: cs => if isBlank c || c == '\n' then skipLines cs else c :: cs

/-- The rest after a backslash at the end of a line: blanks and line breaks are dropped. -/
def lineEnd? (cs : List Char) : Option (List Char) := (newline? (skipBlanks cs)).map skipLines

/-- Reads the characters of a string on one line up to its quote; backslashes escape if
`escapes`. -/
def readLine (quote : Char) (escapes : Bool) :
    Nat → List Char → List Char → Except Error (String × List Char)
  | 0, _, _ => .error .unexpected
  | _, _, [] => .error .unexpected
  | fuel + 1, acc, c :: cs =>
      if c == quote then .ok (String.ofList acc.reverse, cs)
      else if escapes && c == '\\' then do
        let (e, cs) ← readEscape cs
        readLine quote escapes fuel (e :: acc) cs
      else if isControl c then .error .badCharacter
      else readLine quote escapes fuel (c :: acc) cs

/-- Reads the characters of a string on several lines up to its three quotes; up to two quotes in
front of these belong to the string, and so do line breaks as they are written. -/
def readLines (quote : Char) (escapes : Bool) :
    Nat → List Char → List Char → Except Error (String × List Char)
  | 0, _, _ => .error .unexpected
  | _, _, [] => .error .unexpected
  | fuel + 1, acc, c :: cs =>
      if c == quote then
        let quotes := (c :: cs).takeWhile (· == quote)
        let rest := (c :: cs).drop quotes.length
        if quotes.length < 3 then readLines quote escapes fuel (quotes ++ acc) rest
        else if quotes.length ≤ 5 then
          .ok (String.ofList (quotes.drop 3 ++ acc).reverse, rest)
        else .error .unexpected
      else if escapes && c == '\\' then
        match lineEnd? cs with
        | some rest => readLines quote escapes fuel acc rest
        | none => do
            let (e, cs) ← readEscape cs
            readLines quote escapes fuel (e :: acc) cs
      else if isControl c && (newline? (c :: cs)).isNone then .error .badCharacter
      else readLines quote escapes fuel (c :: acc) cs

/-- Reads a string on several lines, from after its three quotes; a line break right there is
dropped. -/
def readBlock (quote : Char) (escapes : Bool) (cs : List Char) :
    Except Error (String × List Char) :=
  let body := (newline? cs).getD cs
  readLines quote escapes (body.length + 1) [] body

/-- Reads a string of any of the four kinds. -/
def readString : List Char → Except Error (String × List Char)
  | '"' :: '"' :: '"' :: cs => readBlock '"' true cs
  | '\'' :: '\'' :: '\'' :: cs => readBlock '\'' false cs
  | '"' :: cs => readLine '"' true (cs.length + 1) [] cs
  | '\'' :: cs => readLine '\'' false (cs.length + 1) [] cs
  | _ => .error .unexpected

end Highlight.Toml
