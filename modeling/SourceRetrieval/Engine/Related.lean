/-
Related files: those that a file imports, at once or by way of others, and those
that import it.

* `Engine.findRelated` answers with the files related to a file;
* `relatedLimit` is how many there may be.

Design notes: imports come before importers, which fill what room is left in
the order of their paths.  Only then the files are put in order.
-/
import SourceRetrieval.Engine.Search
import SourceRetrieval.Imports.Graph
import SourceRetrieval.Imports.Resolve

namespace SourceRetrieval

namespace RelatedFile

/-- Where an importer names what it imports. -/
def importRanges (related : RelatedFile) : List MatchRange :=
  match related.direction with
  | .imports => []
  | .importedBy =>
    if related.via.isEmpty then []
    else
      let chars := related.file.content.toList
      match Text.firstOccurrence? related.via.toList 0 chars with
      | none => []
      | some start =>
        let index := Text.LineIndex.ofChars chars
        [⟨start, start + related.via.utf8ByteSize, index.lineOf start⟩]

/-- The file with its score and, for an importer, the line of its import. -/
def toFile (window : Nat) (related : RelatedFile) : AnalyzedFile :=
  let ranges := related.importRanges
  { related.file with
    relevance := related.score
    ranges := ranges
    excerpts := buildExcerpts related.file.content ranges window }

end RelatedFile

/-- The order of related files: by score, then the shorter path and the path. -/
def rankRelated (a b : AnalyzedFile) : Ordering :=
  (compareScores a.relevance b.relevance).then <|
    (compare a.relativePath.utf8ByteSize b.relativePath.utf8ByteSize).then
      (compare a.path.text b.path.text)

namespace Engine

/-- The graph of the imports of a workspace. -/
def importGraph (engine : Engine) (tree : FileTree) : ImportGraph :=
  ⟨(Resolver.mk tree engine.root).resolve⟩

/-- The most files that an answer about related files holds. -/
def relatedLimit (config : Config) (options : SearchOptions) (resolved : ResolvedOptions) : Nat :=
  if options.maxFiles.isSome then resolved.maxFiles
  else SearchOptions.clamp 1 (max 1 config.search.maxFilesLimit) config.relations.maxFiles

/-- Load a file that an import leads to, if the walk would list it. -/
def loadTarget (engine : Engine) (tree : FileTree) (walker : Walker) (path : Path) :
    Work (Option AnalyzedFile) :=
  match walker.admit? tree path with
  | some candidate => engine.loadCandidate tree walker.maxFileSize candidate
  | none => return none

/-- Those of some candidates that import a file. -/
def importersAmong (engine : Engine) (tree : FileTree) (maxSize : Nat) (target : Path) :
    List Candidate → Work (List RelatedFile)
  | [] => return []
  | candidate :: rest => do
    let loaded ← engine.loadCandidate tree maxSize candidate
    let importers ← engine.importersAmong tree maxSize target rest
    let importer := do
      let file ← loaded
      let via ← (engine.importGraph tree).importOf? file target
      return RelatedFile.mk file 1 via .importedBy
    return importer.toList ++ importers

/-- The files related to a file that has been loaded, at most `limit` of them. -/
def relatedFiles (engine : Engine) (tree : FileTree) (walker : Walker) (start : AnalyzedFile)
    (target : Path) (maxHops limit : Nat) : Work (List RelatedFile) := do
  let imported ← (engine.importGraph tree).traverse (engine.loadTarget tree walker) start maxHops limit
  if limit ≤ imported.length then return imported
  else
    -- A file that has been reached by imports is not listed as an importer too.
    let known := target :: imported.map (·.file.path)
    let candidates := (walker.walk tree).filter fun candidate =>
      !known.any (·.same candidate.path)
    let importers ← engine.importersAmong tree walker.maxFileSize target candidates
    let ordered := importers.mergeSort fun a b =>
      compare a.file.path.text b.file.path.text != .gt
    return imported ++ ordered.take (limit - imported.length)

/-- The files related to a file of the workspace; none if that cannot be read. -/
def findRelated (engine : Engine) (tree : FileTree) (path : String) (options : SearchOptions) :
    RetrievalContext × Engine :=
  let resolved := options.resolve engine.config .keyword
  let limit := relatedLimit engine.config options resolved
  let metadata := SearchMetadata.begin path .keyword resolved
  let target := engine.root.resolveIn path
  engine.run do
    match ← engine.loadPath tree target resolved.maxFileSize with
    | .error _ => return .empty metadata
    | .ok (start, _) =>
      let walker := engine.walker resolved
      let related ← engine.relatedFiles tree walker start target resolved.maxHops limit
      let files := (related.map (·.toFile resolved.contextWindow)).mergeSort fun a b =>
        rankRelated a b != .gt
      let session ← get
      let metadata := {
        metadata.withLanguages files with
        totalFilesScanned := session.scanned
        cacheHits := session.cacheHits }
      return .ofFiles files related.length metadata

end Engine

end SourceRetrieval
