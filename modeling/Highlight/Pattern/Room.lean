import Highlight.Pattern.Basic
import Highlight.Text.Encoding

/-!
# Room

How much room the automaton of a pattern takes up, in bytes.  A state takes 32 of them.  A test for
a set of characters takes states and entries for the byte sequences of its characters, and the
rounds of a repetition are counted one by one, so the bound on the room keeps counted repetitions
within limits.
-/

namespace Highlight

/-- How many bytes a pattern may take up. -/
def maxRoom : Nat := 10485760

/-- The room for what every pattern needs: finding its start, and noting its bounds. -/
def baseRoom : Nat := 208

def stateRoom : Nat := 32

/-- The room of a choice between two ways on. -/
def forkRoom : Nat := 40

/-- The room of a test for a set with these boundaries: a single character is tested byte by byte,
ASCII characters range by range, and others by the sequences of their bytes. -/
def testRoom (bs : List Nat) : Nat :=
  let sequences := Text.encoded bs
  let states := Text.countShared [] sequences
  let isSingle :=
    match bs with
    | [lo, hi] => lo + 1 == hi
    | _ => false
  if bs.isEmpty then stateRoom
  else if isSingle then stateRoom * states
  else if bs.all (· ≤ 128) then 2 * stateRoom + 4 * bs.length
  else 2 * stateRoom + 4 * sequences.length + stateRoom * states

namespace CharSet

def boundaries : CharSet → List Nat
  | range lo hi => if lo ≤ hi then [lo.toNat, hi.toNat + 1] else []
  | word => Text.wordBoundaries.toList
  | digit => Text.digitBoundaries.toList
  | blank => Text.blankBoundaries.toList
  | points bs => bs.toList
  | union a b => Text.union a.boundaries b.boundaries
  | inter a b => Text.combine (· && ·) a.boundaries b.boundaries
  | diff a b => Text.combine (fun x y => x && !y) a.boundaries b.boundaries
  | symmDiff a b => Text.combine (· != ·) a.boundaries b.boundaries
  | compl a => Text.combine (· != ·) [0, 1114112] a.boundaries
  | anyCase (range lo hi) =>
      if lo = hi then
        Text.ofPoints (((Text.caseVariants lo).map Char.toNat).mergeSort (· ≤ ·))
      else
        let bs := [lo.toNat, hi.toNat + 1]
        Text.union bs (Text.variantBoundaries bs.toArray)
  | anyCase a => Text.union a.boundaries (Text.variantBoundaries a.boundaries.toArray)

/-- The room of a test for a word character. -/
def wordRoom : Nat := testRoom word.boundaries

/-- The room of a test for a digit. -/
def digitRoom : Nat := testRoom digit.boundaries

/-- The room of a test for a blank. -/
def blankRoom : Nat := testRoom blank.boundaries

/-- The room of a test for anything but a word character. -/
def otherThanWordRoom : Nat := testRoom (compl word).boundaries

/-- The room of a test for the set. -/
def room : CharSet → Nat
  | range lo hi =>
      if lo = hi then stateRoom * lo.utf8Size
      else if hi.val < 128 then 2 * stateRoom + 8
      else testRoom (range lo hi).boundaries
  | word => wordRoom
  | digit => digitRoom
  | blank => blankRoom
  | compl word => otherThanWordRoom
  | a => testRoom a.boundaries

end CharSet

/-- The room of a repetition of something that takes the room `room`. -/
def repeatedRoom (nullable : Bool) (least : Nat) (most : Option Nat) (room : Nat) : Nat :=
  match least, most with
  | 0, none => if nullable then room + 2 * forkRoom + stateRoom else room + forkRoom
  | n + 1, none => (n + 1) * room + forkRoom
  | 0, some 0 => stateRoom
  | 0, some 1 => room + forkRoom + stateRoom
  | 0, some m => m * (room + forkRoom) + 2 * stateRoom
  | n + 1, some m =>
      if m ≤ n + 1 then (n + 1) * room
      else (n + 1) * room + (m - (n + 1)) * (room + forkRoom) + stateRoom

end Highlight
