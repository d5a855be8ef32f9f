/-
What is known about one file: its text, its outline, and, once a query has
been put to it, how well and where it matches.

* `AnalyzedFile.make` is a file before any query;
* `AnalyzedFile.withoutScore` forgets a query.
-/
import SourceRetrieval.Outline.Basic
import SourceRetrieval.Language
import SourceRetrieval.Text.Offset

namespace SourceRetrieval

/-- The bytes of a content that satisfied a query. -/
structure MatchRange where
  start : Nat
  stop : Nat
  /-- The line of `start`. -/
  line : Nat
  deriving DecidableEq, Inhabited, Repr

/-- Some lines of a content. -/
structure Excerpt where
  firstLine : Nat
  lastLine : Nat
  text : String
  deriving DecidableEq, Inhabited, Repr

/-- A file with its outline and with what a query found in it. -/
structure AnalyzedFile where
  path : Path
  /-- The path as seen from the root of the workspace. -/
  relativePath : String
  content : String
  /-- The length of the content in bytes. -/
  size : Nat
  language : Option Language
  /-- From 0 to 100, for the query that found the file. -/
  relevance : Float
  outline : Outline
  ranges : List MatchRange
  excerpts : List Excerpt
  deriving Inhabited

namespace AnalyzedFile

/-- A file that no query has been put to. -/
def make (path : Path) (relativePath content : String) (language : Option Language)
    (outline : Outline) : AnalyzedFile :=
  { path := path
    relativePath := relativePath
    content := content
    size := content.utf8ByteSize
    language := language
    relevance := 0
    outline := outline
    ranges := []
    excerpts := [] }

/-- The line of the first match; none if nothing matched. -/
def firstMatchLine? (file : AnalyzedFile) : Option Nat :=
  (file.ranges.map (·.line)).min?

/-- What follows the last slash of the relative path. -/
def fileName (file : AnalyzedFile) : String :=
  String.ofList (file.relativePath.toList.reverse.takeWhile (· != '/')).reverse

/-- The file without what a query found in it. -/
def withoutScore (file : AnalyzedFile) : AnalyzedFile :=
  { file with relevance := 0, ranges := [], excerpts := [] }

end AnalyzedFile

end SourceRetrieval
