/-
The answer of an engine: files, and how they were found.

* `RetrievalContext` is an answer, `SearchMetadata` how it came about;
* `RetrievalContext.ofFiles` puts an answer together;
* `totalKey` orders scores, also those that are not numbers.
-/
import SourceRetrieval.Analysis
import SourceRetrieval.Options

namespace SourceRetrieval

/-- How an answer came about. -/
structure SearchMetadata where
  query : String
  kind : SearchKind
  /-- In milliseconds. -/
  timeMs : Nat := 0
  totalFilesScanned : Nat := 0
  /-- The names of the languages that were asked for, or else of those that were found. -/
  includedLanguages : List String
  excludedPatterns : List String
  /-- Whether the search was stopped early. -/
  timedOut : Bool := false
  /-- Notes on options that were out of range. -/
  adjustments : List String
  cacheHits : Nat := 0
  deriving Inhabited

/-- An answer. -/
structure RetrievalContext where
  /-- The best file first. -/
  files : List AnalyzedFile
  /-- The mean relevance of the files, from nought to one. -/
  relevance : Float
  /-- The number of matches in all files, also those left out. -/
  totalMatches : Nat
  metadata : SearchMetadata
  deriving Inhabited

namespace SearchMetadata

/-- How an answer to a query begins. -/
def begin (query : String) (kind : SearchKind) (options : ResolvedOptions) : SearchMetadata :=
  { query := query
    kind := kind
    includedLanguages := options.includeLanguages
    excludedPatterns := options.excludePatterns
    adjustments := options.adjustments }

/-- The names of the languages of some files, each once and in order. -/
def languageNames (files : List AnalyzedFile) : List String :=
  let names := distinct (files.filterMap fun file => file.language.map Language.name)
  names.mergeSort fun a b => compare a b != .gt

/-- List the languages that were found, if none were asked for. -/
def withLanguages (metadata : SearchMetadata) (files : List AnalyzedFile) : SearchMetadata :=
  if metadata.includedLanguages.isEmpty then
    { metadata with includedLanguages := languageNames files }
  else metadata

end SearchMetadata

namespace RetrievalContext

/-- An answer without files. -/
def empty (metadata : SearchMetadata) : RetrievalContext := ⟨[], 0, 0, metadata⟩

/-- The mean relevance of some files, from nought to one. -/
def meanRelevance (files : List AnalyzedFile) : Float :=
  if files.isEmpty then 0
  else
    let total := files.foldl (fun sum file => sum + file.relevance) 0
    total / Float.ofNat files.length / 100

/-- The answer that some files make. -/
def ofFiles (files : List AnalyzedFile) (totalMatches : Nat) (metadata : SearchMetadata) :
    RetrievalContext := ⟨files, meanRelevance files, totalMatches, metadata⟩

end RetrievalContext

/-- The place of a score in the order of all numbers of 64 bits: negative ones first, from
the greatest magnitude down, and then the others, from the least magnitude up. -/
def totalKey (score : Float) : Int :=
  let bits := score.toBits.toNat
  let sign := Nat.pow 2 63
  if bits < sign then bits else -(bits - sign : Int) - 1

/-- Compare scores, the greater first. -/
def compareScores (a b : Float) : Ordering := compare (totalKey b) (totalKey a)

end SourceRetrieval
