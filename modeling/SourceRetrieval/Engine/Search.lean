/-
Searching a workspace.

* `Engine.search` answers a query: it walks the workspace, scores each file and
  keeps the best;
* `rankHits` puts scored files in order.

Design notes: files are loaded in the order of the walk.  Their order in the
answer is total on files with different paths, so it does not depend on the
walk.
-/
import SourceRetrieval.Engine.Basic
import SourceRetrieval.Engine.Context
import SourceRetrieval.Walk

namespace SourceRetrieval

/-- A file that matches a query. -/
structure Hit where
  file : AnalyzedFile
  scored : Scored
  deriving Inhabited

namespace Hit

/-- The line of the first match; none if only the name of the file matches. -/
def firstLine? (hit : Hit) : Option Nat := (hit.scored.ranges.map (·.line)).min?

/-- Compare first lines, having none last. -/
def compareLines : Option Nat → Option Nat → Ordering
  | some a, some b => compare a b
  | some _, none => .lt
  | none, some _ => .gt
  | none, none => .eq

/-- The order of an answer: by score, then the shorter path, the earlier match and the path. -/
def rank (a b : Hit) : Ordering :=
  (compareScores a.scored.score b.scored.score).then <|
    (compare a.file.relativePath.utf8ByteSize b.file.relativePath.utf8ByteSize).then <|
      (compareLines a.firstLine? b.firstLine?).then (compare a.file.path.text b.file.path.text)

/-- The file with what the query found in it. -/
def toFile (window : Nat) (hit : Hit) : AnalyzedFile :=
  { hit.file with
    relevance := hit.scored.score
    ranges := hit.scored.ranges
    excerpts := buildExcerpts hit.file.content hit.scored.ranges window }

end Hit

/-- Put hits in the order of an answer. -/
def rankHits (hits : List Hit) : List Hit := hits.mergeSort fun a b => a.rank b != .gt

namespace Engine

/-- The walk that options ask for. -/
def walker (engine : Engine) (options : ResolvedOptions) : Walker :=
  { root := engine.root
    maxFileSize := options.maxFileSize
    globs := engine.globs
    includes := PatternSet.ofTexts engine.globs engine.config.walker.includePatterns
    excludes := PatternSet.ofTexts engine.globs options.excludePatterns
    languages := options.includeLanguages
    includeTests := options.includeTests
    includeDocs := options.includeDocs
    respectIgnoreFiles := engine.config.walker.respectIgnoreFiles }

/-- Load a candidate and count it. -/
def loadCandidate (engine : Engine) (tree : FileTree) (maxSize : Nat) (candidate : Candidate) :
    Work (Option AnalyzedFile) := do
  match ← engine.loadKnown tree candidate.path candidate.modified candidate.size maxSize with
  | .error _ => return none
  | .ok (file, cached) =>
    record cached
    return some file

/-- Whether a score is good enough for an answer. -/
def isWorthwhile (engine : Engine) (scored : Scored) : Bool :=
  !(scored.score ≤ 0) && !(scored.score < engine.config.search.minScore)

/-- Load and score a candidate. -/
def scoreCandidate (engine : Engine) (tree : FileTree) (plan : QueryPlan)
    (options : ResolvedOptions) (candidate : Candidate) : Work (Option Hit) := do
  match ← engine.loadCandidate tree options.maxFileSize candidate with
  | none => return none
  | some file =>
    let scored := Ranking.scoreFile engine.weights options.fuzzyThreshold plan file
    return if engine.isWorthwhile scored then some ⟨file, scored⟩ else none

/-- The hits among some candidates. -/
def collectHits (engine : Engine) (tree : FileTree) (plan : QueryPlan)
    (options : ResolvedOptions) : List Candidate → Work (List Hit)
  | [] => return []
  | candidate :: rest => do
    let hit ← engine.scoreCandidate tree plan options candidate
    let hits ← engine.collectHits tree plan options rest
    return hit.toList ++ hits

/-- The answer that the hits of a query make. -/
def answer (options : ResolvedOptions) (metadata : SearchMetadata) (hits : List Hit) :
    RetrievalContext :=
  let totalMatches := hits.foldr (fun hit sum => hit.scored.matchCount + sum) 0
  let best := (rankHits hits).take options.maxFiles
  .ofFiles (best.map (·.toFile options.contextWindow)) totalMatches
    (metadata.withLanguages (hits.map (·.file)))

/-- Answer a query that has something to look for.  A search that is cancelled before it
begins stops at the first candidate. -/
def searchPlan (engine : Engine) (tree : FileTree) (plan : QueryPlan) (options : ResolvedOptions)
    (cancelled : Bool) : Work RetrievalContext := do
  let candidates := (engine.walker options).walk tree
  let hits ← engine.collectHits tree plan options (if cancelled then [] else candidates)
  let session ← get
  let metadata := {
    SearchMetadata.begin plan.query plan.kind options with
    totalFilesScanned := session.scanned
    cacheHits := session.cacheHits
    timedOut := cancelled && !candidates.isEmpty }
  return answer options metadata hits

/-- Answer a query. -/
def search (engine : Engine) (tree : FileTree) (query : String) (options : SearchOptions)
    (cancelled : Bool) : RetrievalContext × Engine :=
  let plan := QueryPlan.make query options.kind
  let resolved := options.resolve engine.config plan.kind
  if plan.isEmpty then (.empty (.begin plan.query plan.kind resolved), engine)
  else engine.run (engine.searchPlan tree plan resolved cancelled)

/-- Answer a query by its meaning. -/
def searchMeaning (engine : Engine) (tree : FileTree) (query : String) (options : SearchOptions) :
    RetrievalContext × Engine :=
  engine.search tree query { options with kind := some .semantic } false

/-- The files that use a name. -/
def findUsages (engine : Engine) (tree : FileTree) (name : String) (options : SearchOptions) :
    RetrievalContext × Engine :=
  engine.search tree name { options with kind := some .usage } false

end Engine

end SourceRetrieval
