/-
Edit distance, and the likeness of two names.

* `editDistance` counts the single-character insertions, deletions and
  substitutions that turn one text into another;
* `share` is the quotient of two counts;
* `similarity` scales it to between nought and one, without regard to case.

Design notes: the distances from one prefix of the first text to all prefixes
of the second form a row, and `nextRow` makes the row of one more character.
-/
import SourceRetrieval.Unicode.Property

namespace SourceRetrieval.Ranking

/-- The cells of a row after its first: `left` is the cell before, `above` the row before
from the cell diagonally before on. -/
def nextCells (c : Char) (left : Nat) : List Char → List Nat → List Nat
  | d :: ds, diagonal :: up :: above =>
    let cost := if c = d then 0 else 1
    let cell := min (min (up + 1) (left + 1)) (diagonal + cost)
    cell :: nextCells c cell ds (up :: above)
  | _, _ => []

/-- The row of a prefix that is one character longer. -/
def nextRow (second : List Char) (row : List Nat) (c : Char) : List Nat :=
  let first := row.headD 0 + 1
  first :: nextCells c first second row

/-- The distances from `first` to the prefixes of `second`. -/
def lastRow (first second : List Char) : List Nat :=
  first.foldl (nextRow second) (List.range (second.length + 1))

/-- The least number of single-character insertions, deletions and substitutions that
turn one text into the other. -/
def editDistance (first second : List Char) : Nat := ((lastRow first second).getLast?).getD 0

/-- The share that one count is of another. -/
def share (part whole : Nat) : Float32 :=
  (UInt64.ofNat part).toFloat32 / (UInt64.ofNat whole).toFloat32

/-- The likeness of two names, without regard to case: one if they are equal. -/
def similarity (first second : String) : Float32 :=
  let a := (Unicode.lowercase first).toList
  let b := (Unicode.lowercase second).toList
  let longest := max a.length b.length
  if longest = 0 then 1
  else 1 - share (editDistance a b) longest

end SourceRetrieval.Ranking
