/-
Sets of characters as sequences of byte ranges.

* `byteSequences` cuts the characters of a range into blocks, each of which has, byte
  by byte, all the encodings in some ranges;
* `CodeSet.byteSequences` does so for a whole set.

Design notes: a character with continuation bytes is a number in base 64 whose digits are
those bytes.  A range of such numbers is a block if its ends differ in the first digit at
most, or if all digits behind the first that differs run from least to greatest; what
stands out on either side is cut off.
-/
import SourceRetrieval.Unicode.CodeSet

namespace SourceRetrieval.Unicode

/-- A range of bytes, or of digits before they become bytes. -/
abbrev ByteRange := Nat × Nat

/-- The ranges of digits for the numbers from `low` to `high` with so many digits behind
the first one. -/
def digitRanges : Nat → Nat → Nat → List (List ByteRange)
  | 0, low, high => [[(low, high)]]
  | behind + 1, low, high =>
    let weight := Nat.pow 64 (behind + 1)
    let (first, last) := (low / weight, high / weight)
    if first == last then
      (digitRanges behind (low % weight) (high % weight)).map ((first, first) :: ·)
    else
      let lowCut := low % weight != 0
      let highCut := high % weight != weight - 1
      let front := if lowCut then digitRanges behind (low % weight) (weight - 1) else []
      let back := if highCut then digitRanges behind 0 (high % weight) else []
      let begin := if lowCut then first + 1 else first
      let stop := if highCut then last else last + 1
      let middle :=
        if begin < stop then [(begin, stop - 1) :: List.replicate (behind + 1) (0, 63)] else []
      front.map ((first, first) :: ·) ++ middle ++ back.map ((last, last) :: ·)

/-- Turn digits into bytes: `lead` marks the first one, the others continue. -/
def toBytes (lead : Nat) : List ByteRange → List ByteRange
  | [] => []
  | (low, high) :: digits =>
    (lead + low, lead + high) :: digits.map fun (low, high) => (0x80 + low, 0x80 + high)

/-- The stretches of code points whose encodings have one length, with the digits behind
the first one and the mark of the first byte. -/
def encodingStretches : List (Nat × Nat × Nat × Nat) :=
  [(0, 0x7F, 0, 0), (0x80, 0x7FF, 1, 0xC0), (0x800, 0xD7FF, 2, 0xE0), (0xE000, 0xFFFF, 2, 0xE0),
    (0x10000, 0x10FFFF, 3, 0xF0)]

/-- The byte ranges of the characters with code points from `low` to `high`, in order. -/
def byteSequences (low high : Nat) : List (List ByteRange) :=
  encodingStretches.flatMap fun (first, last, behind, lead) =>
    let (low, high) := (max low first, min high last)
    if low ≤ high then (digitRanges behind low high).map (toBytes lead) else []

/-- The byte ranges of the characters of a set, in order. -/
def CodeSet.byteSequences (set : CodeSet) : List (List ByteRange) :=
  (set.asciiRanges ++ set.beyond.toList).flatMap fun (first, last) =>
    Unicode.byteSequences first last

end SourceRetrieval.Unicode
