/-
Bodies of declarations, by braces or by indentation.

* `codeFrom` lists the characters of a text that stand outside string literals
  and comments, with their offsets;
* `braceBody?` finds the braces of a body, `braceLines` the lines directly inside;
* `indentedBody?` finds the block below a header, `indentedLines` the lines at
  its own indentation.

Design notes: an opening quote without a closing one on its line is an ordinary
character, so the scan looks ahead for the closing quote and then counts the
characters it covers.  Offsets count bytes from the start of the whole text.
-/
import SourceRetrieval.Text.Blank
import SourceRetrieval.Text.Offset
import SourceRetrieval.Text.Find
import SourceRetrieval.Text.Lines

namespace SourceRetrieval.Outline

open Text

/-- How many characters follow an opening quote up to its closing quote, that one
included, `count` being counted already; only a backquoted text spans lines. -/
def quotedLength? (quote : Char) (count : Nat) : List Char → Option Nat
  | [] => none
  | ['\\'] => none
  | '\\' :: _ :: cs => quotedLength? quote (count + 2) cs
  | c :: cs =>
    if c == quote then some (count + 1)
    else if c == '\n' && quote != '`' then none
    else quotedLength? quote (count + 1) cs

/-- How many characters come before the end of a block comment and that end, all if it
has no end. -/
def blockCommentLength (count : Nat) : List Char → Nat
  | [] => count
  | '*' :: '/' :: _ => count + 2
  | _ :: cs => blockCommentLength (count + 1) cs

/-- How many characters after `c` belong to the literal or comment that `c` begins. -/
def coveredLength? (c : Char) (cs : List Char) : Option Nat :=
  if c == '"' || c == '\'' || c == '`' then quotedLength? c 0 cs
  else if c == '/' then
    match cs with
    | '/' :: _ => some (cs.takeWhile (· != '\n')).length
    | '*' :: inner => some (blockCommentLength 1 inner)
    | _ => none
  else none

/-- The characters outside literals and comments that satisfy `keep`, with their
offsets; the next `skip` characters belong to a literal or comment. -/
def codeFrom (keep : Char → Bool) (skip start : Nat) : List Char → List (Nat × Char)
  | [] => []
  | c :: cs =>
    match skip with
    | rest + 1 => codeFrom keep rest (start + c.utf8Size) cs
    | 0 =>
      match coveredLength? c cs with
      | some covered => codeFrom keep covered (start + c.utf8Size) cs
      | none =>
        if keep c then (start, c) :: codeFrom keep 0 (start + c.utf8Size) cs
        else codeFrom keep 0 (start + c.utf8Size) cs

/-- A brace or a newline, the characters that delimit bodies and their lines. -/
def isMark (c : Char) : Bool := c == '\x7b' || c == '\x7d' || c == '\n'

/-- The bounds of a body and the offsets of the lines to look for members on. -/
structure Body where
  start : Nat
  stop : Nat
  lines : List Nat
  deriving DecidableEq, Inhabited, Repr

/-- The first opening brace, with the text it begins; none if a semicolon comes first. -/
def openingBrace? (start : Nat) : List Char → Option (Nat × List Char)
  | [] => none
  | c :: cs =>
    if c == '\x7b' then some (start, c :: cs)
    else if c == ';' then none
    else openingBrace? (start + c.utf8Size) cs

/-- The offset of the brace that closes the first one of a list of marks. -/
def closingBrace? (depth : Nat) : List (Nat × Char) → Option Nat
  | [] => none
  | (offset, c) :: marks =>
    if c == '\x7b' then closingBrace? (depth + 1) marks
    else if c == '\x7d' then
      -- The first opening brace has made the depth one.
      if depth ≤ 1 then some offset else closingBrace? (depth - 1) marks
    else closingBrace? depth marks

/-- The offsets of the braces around the body that begins at or after `offset`.  A body
that is never closed ends with the text. -/
def braceBody? (cs : List Char) (offset : Nat) : Option (Nat × Nat) := do
  let before := takeBytes offset cs
  let (opening, rest) ← openingBrace? (byteLength before) (dropBytes offset cs)
  let closing := closingBrace? 0 (codeFrom isMark 0 opening rest)
  return (opening, closing.getD (byteLength cs))

/-- The starts of the lines at depth zero of a list of marks, before `stop`. -/
def levelLines (stop depth : Nat) : List (Nat × Char) → List Nat
  | [] => []
  | (offset, c) :: marks =>
    if c == '\x7b' then levelLines stop (depth + 1) marks
    else if c == '\x7d' then levelLines stop (depth - 1) marks
    else if depth == 0 && offset + 1 < stop then (offset + 1) :: levelLines stop depth marks
    else levelLines stop depth marks

/-- The starts of the lines directly inside the braces at `opening` and `closing`. -/
def braceLines (cs : List Char) (opening closing : Nat) : List Nat :=
  (opening + 1) ::
    levelLines closing 0 (codeFrom isMark 0 (opening + 1) (cut (opening + 1) closing cs))

/-- How far a line is indented, in blanks and tabs. -/
def indentWidth (line : List Char) : Nat :=
  (line.takeWhile fun c => c == ' ' || c == '\t').length

/-- A line that is neither blank nor a comment. -/
def isSignificant (line : List Char) : Bool :=
  match trim line with
  | [] => false
  | c :: _ => c != '#'

/-- The lines of a text that begins at offset `start`, each with the offset of its start. -/
def placeLines (start : Nat) : List (List Char) → List (Nat × List Char)
  | [] => []
  | line :: others => (start, line) :: placeLines (start + byteLength line) others

/-- A block of lines below a header, indented deeper than the header. -/
structure IndentedBody where
  start : Nat
  stop : Nat
  /-- The indentation of its first significant line. -/
  indent : Nat
  deriving DecidableEq, Inhabited, Repr

/-- The block below a header that ends at offset `headerEnd` and is indented by
`headerIndent`; none if no significant line belongs to it. -/
def indentedBody? (cs : List Char) (headerEnd headerIndent : Nat) : Option IndentedBody := do
  let after := dropBytes headerEnd cs
  let sameLine := after.takeWhile (· != '\n')
  if sameLine.length < after.length then
    let start := byteLength (takeBytes headerEnd cs) + byteLength sameLine + 1
    let lines := placeLines start (lineChunks (after.drop (sameLine.length + 1)))
    let ends := fun (line : Nat × List Char) =>
      isSignificant line.2 && indentWidth line.2 ≤ headerIndent
    let inside := lines.takeWhile (!ends ·)
    let first ← inside.find? (isSignificant ·.2)
    let stop := match lines.find? ends with
      | some (offset, _) => offset
      | none => byteLength cs
    return ⟨start, stop, indentWidth first.2⟩
  else none

/-- The starts of the non-blank lines of a block at its own indentation. -/
def indentedLines (cs : List Char) (body : IndentedBody) : List Nat :=
  let lines := placeLines body.start (lineChunks (cut body.start body.stop cs))
  (lines.filter fun (_, line) =>
    !(trim line).isEmpty && indentWidth line == body.indent).map (·.1)

end SourceRetrieval.Outline
