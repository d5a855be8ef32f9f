/-
Blank characters, and what a text is once its blanks are cut away.

* `isBlank` is the property White_Space;
* `trim`, `trimStart` and `trimEnd` drop the blanks at the ends of a text;
* `splitBy` cuts a text at separators, `words` at runs of blanks;
* `collapse` joins the words of a text with single spaces.

Design notes: inside the library a text is a list of characters, so that a
scan is a recursion on it; `String` stands at the edges.  `splitBy` is a right
fold, whose laws are inductions on the list.
-/

namespace SourceRetrieval.Text

/-- A blank character: the property White_Space. -/
def isBlank (c : Char) : Bool :=
  let n := c.toNat
  (9 ≤ n && n ≤ 13) || n == 0x20 || n == 0x85 || n == 0xA0 || n == 0x1680
    || (0x2000 ≤ n && n ≤ 0x200A) || n == 0x2028 || n == 0x2029 || n == 0x202F
    || n == 0x205F || n == 0x3000

/-- Drop the leading blanks. -/
def trimStart (cs : List Char) : List Char := cs.dropWhile isBlank

/-- Drop the trailing characters that satisfy `p`. -/
def dropEndWhile (p : Char → Bool) (cs : List Char) : List Char :=
  (cs.reverse.dropWhile p).reverse

/-- Drop the trailing blanks. -/
def trimEnd (cs : List Char) : List Char := dropEndWhile isBlank cs

/-- Drop the blanks at both ends. -/
def trim (cs : List Char) : List Char := trimEnd (trimStart cs)

/-- The pieces between the characters that satisfy `sep`, empty pieces included. -/
def splitBy (sep : Char → Bool) (cs : List Char) : List (List Char) :=
  cs.foldr step [[]]
where
  /-- Put one more character in front of the pieces of the rest. -/
  step (c : Char) (pieces : List (List Char)) : List (List Char) :=
    if sep c then [] :: pieces
    else match pieces with
      | [] => [[c]]
      | piece :: others => (c :: piece) :: others

/-- The maximal blank-free stretches of a text. -/
def words (cs : List Char) : List (List Char) :=
  (splitBy isBlank cs).filter (!·.isEmpty)

/-- The words of a text, joined with single spaces. -/
def collapseChars (cs : List Char) : List Char :=
  [' '].intercalate (words cs)

/-- The words of a text, joined with single spaces. -/
def collapse (text : String) : String :=
  String.ofList (collapseChars text.toList)

/-- A text without the blanks at its ends. -/
def trimmed (text : String) : String :=
  String.ofList (trim text.toList)

@[simp] theorem splitBy_nil (sep : Char → Bool) : splitBy sep [] = [[]] := rfl

theorem splitBy_cons (sep : Char → Bool) (c : Char) (cs : List Char) :
    splitBy sep (c :: cs) = splitBy.step sep c (splitBy sep cs) := rfl

end SourceRetrieval.Text
