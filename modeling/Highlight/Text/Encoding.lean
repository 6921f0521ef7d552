import Highlight.Text.Boundaries

/-!
# Characters as bytes

Written as bytes, a character takes one to four of them, and the characters of a range are those of
a few sequences of byte ranges.
-/

namespace Highlight.Text

/-- A range of bytes. -/
abbrev ByteRange := Nat × Nat

/-- The sequences of byte ranges for the numbers from `lo` to `hi`, whose lowest six bits go into
the last byte, the next six into the one before it, and so on; `mark` is added to the first byte. -/
def byteSequences : (more : Nat) → (mark lo hi : Nat) → List (List ByteRange)
  | 0, mark, lo, hi => [[(mark + lo, mark + hi)]]
  | more + 1, mark, lo, hi =>
      let unit := Nat.pow 64 (more + 1)
      let first := lo / unit
      let last := hi / unit
      let under (lead lo hi : Nat) : List (List ByteRange) :=
        (byteSequences more 128 lo hi).map ((mark + lead, mark + lead) :: ·)
      if first = last then under first (lo % unit) (hi % unit)
      else
        let cutLow := lo % unit != 0
        let cutHigh := hi % unit != unit - 1
        let start := if cutLow then first + 1 else first
        let stop := if cutHigh then last else last + 1
        (if cutLow then under first (lo % unit) (unit - 1) else []) ++
          (if start < stop then
            [(mark + start, mark + stop - 1) :: List.replicate (more + 1) (128, 191)]
          else []) ++
          if cutHigh then under last 0 (hi % unit) else []

/-- The sequences for the characters between `lo` and `hi` that take `more + 1` bytes and lie
between `least` and `most`. -/
def sequencesWithin (more mark least most lo hi : Nat) : List (List ByteRange) :=
  if max lo least ≤ min hi most then byteSequences more mark (max lo least) (min hi most) else []

/-- The sequences of byte ranges for the characters from `lo` to `hi`. -/
def encodedRange (lo hi : Nat) : List (List ByteRange) :=
  sequencesWithin 0 0 0 127 lo hi ++ sequencesWithin 1 192 128 2047 lo hi ++
    sequencesWithin 2 224 2048 55295 lo hi ++ sequencesWithin 2 224 57344 65535 lo hi ++
    sequencesWithin 3 240 65536 1114111 lo hi

/-- The sequences of byte ranges for the characters of a set, by its boundaries. -/
def encoded : List Nat → List (List ByteRange)
  | [] => []
  | [lo] => encodedRange lo 1114111
  | lo :: next :: bs => encodedRange lo (next - 1) ++ encoded bs

/-- How many byte ranges at the start two sequences have in common. -/
def sharedLength : List ByteRange → List ByteRange → Nat
  | a :: as, b :: bs => if a == b then sharedLength as bs + 1 else 0
  | _, _ => 0

/-- The number of byte ranges in sequences in order, where what one has in common with the one
before it counts once. -/
def countShared : (before : List ByteRange) → List (List ByteRange) → Nat
  | _, [] => 0
  | before, s :: ss => s.length - sharedLength before s + countShared s ss

end Highlight.Text
