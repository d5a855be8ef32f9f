/-
Byte offsets into a text.

Offsets, lengths and sizes count the bytes of the UTF-8 form of a text.

* `byteLength` is the length of that form;
* `takeBytes` and `dropBytes` cut a text at an offset, `cut` takes the text
  between two offsets;
* `OnBoundary` says that an offset falls between two characters.

Design notes: an offset inside a character is rounded down to the start of it,
so the two halves of a cut always join to the whole text.
-/

namespace SourceRetrieval.Text

/-- The number of bytes of a text. -/
def byteLength (cs : List Char) : Nat :=
  cs.foldl (fun n c => n + c.utf8Size) 0

/-- How many leading characters fit into `budget` bytes, `count` being counted already. -/
def fitting (count budget : Nat) : List Char → Nat
  | [] => count
  | c :: cs =>
    if c.utf8Size ≤ budget then fitting (count + 1) (budget - c.utf8Size) cs else count

/-- The longest beginning of a text of at most `n` bytes. -/
def takeBytes (n : Nat) (cs : List Char) : List Char := cs.take (fitting 0 n cs)

/-- What `takeBytes` leaves. -/
def dropBytes (n : Nat) (cs : List Char) : List Char := cs.drop (fitting 0 n cs)

/-- The text between two offsets. -/
def cut (start stop : Nat) (cs : List Char) : List Char :=
  takeBytes (stop - start) (dropBytes start cs)

/-- The offset `n` falls between two characters, or at an end, of the text. -/
def OnBoundary (cs : List Char) (n : Nat) : Prop :=
  ∃ before after, cs = before ++ after ∧ n = byteLength before

theorem takeBytes_append_dropBytes (n : Nat) (cs : List Char) :
    takeBytes n cs ++ dropBytes n cs = cs := List.take_append_drop _ _

end SourceRetrieval.Text
