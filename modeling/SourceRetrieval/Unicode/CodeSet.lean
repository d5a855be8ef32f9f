/-
Sets of characters.

* `CodeSet` is a set: a bit for each of its ASCII characters, and the code points of the others as
  ranges in ascending order;
* `CodeSet.has` decides membership, and `union`, `inter`, `minus`, `symmetric` and
  `complement` are the operations of sets;
* `CodeSet.ofText` reads a set from the text of a table.

Design notes: whether an ASCII character is in a set is known from the bits alone, so a text of
ASCII characters is searched without a look at the large tables of the standard.  The ranges of a
set neither overlap nor touch, so each set has one list of ranges, and membership is a search that
halves the list.  The code points of surrogates are no characters: where a range would begin or end
at one of them it begins after or ends before all of them.
-/

namespace SourceRetrieval.Unicode

/-- A set of characters. -/
structure CodeSet where
  /-- The ASCII characters, the bit of each being numbered by its code point. -/
  ascii : Nat
  /-- The other characters: closed ranges of code points, ascending and apart. -/
  beyond : Array (Nat × Nat)
  deriving Inhabited, BEq

namespace CodeSet

/-- The code point of the last character. -/
def lastCode : Nat := 0x10FFFF

/-- The first code point beyond ASCII. -/
def asciiEnd : Nat := 128

/-- The bits of the code points below `n`. -/
def bitsBelow (n : Nat) : Nat := (1 <<< n) - 1

/-- The code point of the next character. -/
def codeAfter (n : Nat) : Nat := if n == 0xD7FF then 0xE000 else n + 1

/-- The code point of the character before. -/
def codeBefore (n : Nat) : Nat := if n == 0xE000 then 0xD7FF else n - 1

/-- Join the ranges that overlap or touch, their beginnings being in order. -/
def joinRanges : List (Nat × Nat) → List (Nat × Nat)
  | (first, last) :: (next, stop) :: rest =>
    if next ≤ last + 1 then joinRanges ((first, max last stop) :: rest)
    else (first, last) :: joinRanges ((next, stop) :: rest)
  | ranges => ranges
termination_by ranges => ranges.length

/-- Whether a range begins no later than another one. -/
def beginsFirst (left right : Nat × Nat) : Bool := left.1 ≤ right.1

/-- The bits of the ASCII characters of a range. -/
def rangeBits (range : Nat × Nat) : Nat :=
  bitsBelow (min range.1 asciiEnd) ^^^ bitsBelow (min (max range.1 (range.2 + 1)) asciiEnd)

/-- The characters of a range beyond ASCII, if there are any. -/
def rangeBeyond? (range : Nat × Nat) : Option (Nat × Nat) :=
  if range.2 < asciiEnd then none else some (max range.1 asciiEnd, range.2)

/-- The set of some ranges in any order. -/
def ofRanges (ranges : List (Nat × Nat)) : CodeSet where
  ascii := ranges.foldl (fun bits range => bits ||| rangeBits range) 0
  beyond := (joinRanges ((ranges.filterMap rangeBeyond?).mergeSort beginsFirst)).toArray

/-- The empty set. -/
def empty : CodeSet := ⟨0, #[]⟩

/-- The set of all characters. -/
def all : CodeSet := ⟨bitsBelow asciiEnd, #[(asciiEnd, lastCode)]⟩

/-- The characters from one to another. -/
def between (first last : Char) : CodeSet :=
  ⟨rangeBits (first.toNat, last.toNat), (rangeBeyond? (first.toNat, last.toNat)).toArray⟩

/-- The set of one character. -/
def single (c : Char) : CodeSet := between c c

/-- The set of some characters. -/
def ofChars (chars : List Char) : CodeSet :=
  ofRanges (chars.map fun c => (c.toNat, c.toNat))

/-- The characters of either set. -/
def union (left right : CodeSet) : CodeSet where
  ascii := left.ascii ||| right.ascii
  beyond := (joinRanges (left.beyond.toList.merge right.beyond.toList beginsFirst)).toArray

/-- The characters of any of several sets. -/
def unions (sets : List CodeSet) : CodeSet where
  ascii := sets.foldl (fun bits set => bits ||| set.ascii) 0
  beyond :=
    (joinRanges ((sets.flatMap fun set => set.beyond.toList).mergeSort beginsFirst)).toArray

/-- The ranges from `start` on that some ranges leave out. -/
def gapsFrom (start : Nat) : List (Nat × Nat) → List (Nat × Nat)
  | [] => if start ≤ lastCode then [(start, lastCode)] else []
  | (first, last) :: rest =>
    let later := gapsFrom (codeAfter last) rest
    if start < first then (start, codeBefore first) :: later else later

/-- The characters that are not in a set. -/
def complement (set : CodeSet) : CodeSet where
  ascii := bitsBelow asciiEnd ^^^ set.ascii
  beyond := (gapsFrom asciiEnd set.beyond.toList).toArray

/-- The characters of both sets. -/
def inter (left right : CodeSet) : CodeSet :=
  complement (union (complement left) (complement right))

/-- The characters of the first set that are not in the second. -/
def minus (left right : CodeSet) : CodeSet := complement (union (complement left) right)

/-- The characters of exactly one of the sets. -/
def symmetric (left right : CodeSet) : CodeSet := union (minus left right) (minus right left)

/-- The ASCII characters of one set and the other characters of another. -/
def beside (left right : CodeSet) : CodeSet := ⟨left.ascii, right.beyond⟩

/-- Whether one of the ranges from `lo` up to `hi` holds a code point; `fuel` bounds
the number of halvings. -/
def search (ranges : Array (Nat × Nat)) (code : Nat) : Nat → Nat → Nat → Bool
  | 0, _, _ => false
  | fuel + 1, lo, hi =>
    if hi ≤ lo then false
    else
      let mid := (lo + hi) / 2
      match ranges[mid]? with
      | none => false
      | some (first, last) =>
        if code < first then search ranges code fuel lo mid
        else if last < code then search ranges code fuel (mid + 1) hi
        else true

/-- Whether a code point is in a set. -/
def hasCode (set : CodeSet) (code : Nat) : Bool :=
  if code < asciiEnd then set.ascii.testBit code
  else search set.beyond code set.beyond.size 0 set.beyond.size

/-- Whether a character is in a set. -/
def has (set : CodeSet) (c : Char) : Bool := set.hasCode c.toNat

/-- Whether a set has no members. -/
def isEmpty (set : CodeSet) : Bool := set.ascii == 0 && set.beyond.isEmpty

/-- Whether all members of a set are ASCII characters. -/
def isAscii (set : CodeSet) : Bool := set.beyond.isEmpty

/-- The ranges of the ASCII characters of a set. -/
def asciiRanges (set : CodeSet) : List (Nat × Nat) :=
  joinRanges (((List.range asciiEnd).filter set.ascii.testBit).map fun code => (code, code))

/-- The only member of a set, if there is exactly one. -/
def single? (set : CodeSet) : Option Char :=
  if set.ascii == 0 then
    match set.beyond.toList with
    | [(first, last)] => if first == last then some (Char.ofNat first) else none
    | _ => none
  else
    let code := set.ascii.log2
    if set.ascii == 1 <<< code && set.beyond.isEmpty then some (Char.ofNat code) else none

/-- The value of a hexadecimal digit in the text of a table. -/
def digitValue (c : Char) : Nat := if c.isDigit then c.toNat - 48 else c.toNat - 55

/-- The words of a table so far, last one first, each a list of its numbers, last one
first, after one more character. -/
def addChar (words : List (List Nat)) (c : Char) : List (List Nat) :=
  match words with
  | [] => []
  | numbers :: others =>
    if c == ' ' || c == '\n' then [] :: words
    else if c == '-' || c == '/' then (0 :: numbers) :: others
    else
      match numbers with
      | [] => [digitValue c] :: others
      | number :: before => ((16 * number + digitValue c) :: before) :: others

/-- The ranges that a word of a table lists, its numbers coming last one first: a code
point, a range, or each code point of a range at some distance from the one before. -/
def wordRanges : List Nat → List (Nat × Nat)
  | [code] => [(code, code)]
  | [last, first] => [(first, last)]
  | [distance, last, first] =>
    (List.range' first ((last - first) / distance + 1) distance).map fun code => (code, code)
  | _ => []

/-- Read a set from the text of a table: words such as `AA`, `41-5A` and `100-136/2`, the
last of which lists every second code point of its range, on any number of lines. -/
def ofText (text : String) : CodeSet :=
  ofRanges ((text.toList.foldl addChar [[]]).reverse.flatMap wordRanges)

end CodeSet

end SourceRetrieval.Unicode
