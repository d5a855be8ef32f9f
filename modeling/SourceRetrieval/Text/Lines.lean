/-
Lines of a text, numbered from one and ended by the newline character alone.

* `lineChunks` cuts a text after each newline, `lines` without the line ends;
* `LineIndex` answers which line an offset lies on and where a line begins and ends.

Design notes: the index keeps the offsets of the newlines in increasing order.
The line of an offset is one more than the number of newlines before it, and
every other answer is read off the same list.
-/
import SourceRetrieval.Text.Offset

namespace SourceRetrieval.Text

/-- The lines of a text, each with its newline; an empty last line is left out. -/
def lineChunks (cs : List Char) : List (List Char) :=
  cs.foldr step []
where
  /-- Put one more character in front of the lines of the rest. -/
  step (c : Char) (chunks : List (List Char)) : List (List Char) :=
    if c = '\n' then ['\n'] :: chunks
    else match chunks with
      | [] => [[c]]
      | chunk :: others => (c :: chunk) :: others

/-- A line without its newline and without a carriage return right before that newline. -/
def stripLineEnd (chunk : List Char) : List Char :=
  match chunk.reverse with
  | '\n' :: '\r' :: rest => rest.reverse
  | '\n' :: rest => rest.reverse
  | _ => chunk

/-- The lines of a text without their ends. -/
def lines (cs : List Char) : List (List Char) := (lineChunks cs).map stripLineEnd

/-- The offsets of the newlines of a text that begins at offset `start`. -/
def breaksFrom (start : Nat) : List Char → List Nat
  | [] => []
  | c :: cs =>
    if c = '\n' then start :: breaksFrom (start + 1) cs
    else breaksFrom (start + c.utf8Size) cs

/-- Where the lines of a text begin and end. -/
structure LineIndex where
  /-- The offsets of the newlines, in increasing order. -/
  breaks : List Nat
  /-- The length of the text in bytes. -/
  length : Nat

namespace LineIndex

/-- The line index of a text. -/
def ofChars (cs : List Char) : LineIndex := ⟨breaksFrom 0 cs, byteLength cs⟩

/-- The line index of a text. -/
def ofText (text : String) : LineIndex := ofChars text.toList

/-- The line an offset lies on. -/
def lineOf (index : LineIndex) (offset : Nat) : Nat :=
  index.breaks.countP (· < offset) + 1

/-- The offset where a line begins; the length of the text for a line past the last. -/
def lineStart (index : LineIndex) (line : Nat) : Nat :=
  if line ≤ 1 then 0
  else match index.breaks[line - 2]? with
    | some newline => newline + 1
    | none => index.length

/-- The offset just past the last character of a line, its newline left out. -/
def lineEnd (index : LineIndex) (line : Nat) : Nat :=
  (index.breaks[line - 1]?).getD index.length

/-- The number of lines. -/
def lineCount (index : LineIndex) : Nat := index.breaks.length + 1

end LineIndex

end SourceRetrieval.Text
