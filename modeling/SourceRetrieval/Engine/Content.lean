/-
From the bytes of a file to its text, and from its text to excerpts.

* `decodeContent` refuses what is not text;
* `buildExcerpts` cuts out the lines around matches.

Design notes: windows are merged while they are made, in the order of the
lines, so two excerpts never touch.
-/
import SourceRetrieval.Analysis
import SourceRetrieval.Failure
import SourceRetrieval.Listing
import SourceRetrieval.Text.Lines
import SourceRetrieval.Text.Utf8

namespace SourceRetrieval

/-- The number of bytes that are looked at to tell text from other data. -/
def sniffLength : Nat := 8192

/-- A control character that text seldom holds. -/
def isOddControl (b : UInt8) : Bool :=
  b < 0x20 && !(b == 0x0a || b == 0x0d || b == 0x09 || b == 0x0c)

/-- Whether the first bytes of a file are not those of a text: a zero is among them, or
more than three in ten are control characters. -/
def looksBinary (bytes : List UInt8) : Bool :=
  bytes.contains 0 || bytes.length * 3 < bytes.countP isOddControl * 10

/-- A text without the byte order mark in front of it. -/
def dropMark (text : String) : String :=
  match text.toList with
  | '\uFEFF' :: rest => String.ofList rest
  | _ => text

/-- The text of a file. -/
def decodeContent (file : String) (bytes : ByteArray) : Except FileFailure String :=
  if looksBinary (bytes.extract 0 sniffLength).toList then .error (.binary file)
  else match Text.decode? bytes with
    | some text => .ok (dropMark text)
    | none => .error (.invalidUtf8 file)

/-- The most excerpts of a file. -/
def maxExcerpts : Nat := 5

/-- The first and the last line of a stretch. -/
abbrev Span := Nat × Nat

/-- The lines around a line of a text of `last` lines.  The sum is one of 64 bits: it fits if the
window is below 2^63, since a text has no more lines than that. -/
def windowSpan (window last line : Nat) : Span := (max 1 (line - window), min last (line + window))

/-- Join neighbouring stretches that overlap or touch. -/
def mergeSpans : List Span → List Span
  | (a, b) :: (c, d) :: rest =>
    if c ≤ b + 1 then mergeSpans ((a, max b d) :: rest) else (a, b) :: mergeSpans ((c, d) :: rest)
  | spans => spans
termination_by spans => spans.length

/-- The lines around the matches of a text. -/
def buildExcerpts (content : String) (ranges : List MatchRange) (window : Nat) : List Excerpt :=
  if content.isEmpty then []
  else
    let chars := content.toList
    let index := Text.LineIndex.ofChars chars
    let last := index.lineCount
    let lines := sortOn id (distinct (ranges.map fun range => min last (max 1 range.line)))
    let spans := mergeSpans (lines.map (windowSpan window last))
    (spans.take maxExcerpts).map fun (first, last) =>
      let text := Text.cut (index.lineStart first) (index.lineEnd last) chars
      ⟨first, last, String.ofList text⟩

end SourceRetrieval
