/-
The engine: a workspace, its settings, and the cache of what was analyzed.

* `Engine.make` binds an engine to a workspace;
* `Session` is the state in which one call of the engine runs: the cache, and the
  number of files looked at;
* `Engine.loadPath` and `Engine.loadKnown` get an analyzed file, from the cache if
  they can.
-/
import SourceRetrieval.Cache
import SourceRetrieval.Config.Basic
import SourceRetrieval.Engine.Content
import SourceRetrieval.FileTree.Basic
import SourceRetrieval.Glob.Library
import SourceRetrieval.Outline.Extract
import SourceRetrieval.Ranking.Score

namespace SourceRetrieval

/-- A search engine for one workspace. -/
structure Engine where
  /-- Absolute and normal. -/
  root : Path
  config : Config
  rules : RuleRegistry
  weights : Weights
  /-- What globs and ignore files are read with. -/
  globs : GlobLibrary
  cache : AnalysisCache

/-- The state in which a call of an engine runs. -/
structure Session where
  cache : AnalysisCache
  /-- The number of files looked at. -/
  scanned : Nat := 0
  /-- How many of them the cache served. -/
  cacheHits : Nat := 0

/-- What a call of an engine does. -/
abbrev Work := StateM Session

namespace Engine

/-- The cache that a configuration asks for. -/
def freshCache (config : Config) : AnalysisCache :=
  { capacity := if config.cache.enabled then config.cache.capacity else 0 }

/-- The root that a configuration names, seen from a working directory. -/
def rootOf (config : Config) (here : Path) : Except Failure Path :=
  match config.workspace.root with
  | some root => .ok (here.join root.text).normalize
  | none => .error (.workspace .notConfigured)

/-- Bind an engine to the workspace that a configuration names. -/
def make (config : Config) (rules : RuleRegistry) (weights : Weights) (globs : GlobLibrary)
    (here : Path) (tree : FileTree) : Except Failure Engine := do
  config.validate
  let root ← rootOf config here
  match tree.stat root with
  | .error _ => .error (.workspace (.rootNotFound root.text))
  | .ok stat =>
    if stat.isDir then
      return { root, config, rules, weights, globs, cache := freshCache config }
    else .error (.workspace (.notADirectory root.text))

/-- Read and analyze a file whose size is known. -/
def analyzeFile (engine : Engine) (tree : FileTree) (path : Path) (size maxSize : Nat) :
    Except FileFailure AnalyzedFile := do
  if maxSize < size then .error (.tooLarge size maxSize)
  let bytes ← (tree.read path).mapError (FileFailure.ofAccess path.text)
  -- The file may have grown since its size was looked at.
  if maxSize < bytes.size then .error (.tooLarge bytes.size maxSize)
  let content ← decodeContent path.text bytes
  let language := Language.ofPath? path
  let outline := engine.rules.outline language content
  return .make path (engine.root.relativeTo path) content language outline

/-- An analyzed file whose time and size are known, and whether the cache served it. -/
def loadKnown (engine : Engine) (tree : FileTree) (path : Path) (modified size maxSize : Nat) :
    Work (Except FileFailure (AnalyzedFile × Bool)) := do
  let session ← get
  let (hit, cache) := session.cache.get path modified size
  set { session with cache := cache }
  match hit with
  | some file => return .ok (file, true)
  | none =>
    match engine.analyzeFile tree path size maxSize with
    | .error failure => return .error failure
    | .ok file =>
      modify fun session =>
        { session with cache := session.cache.insert path modified size file }
      return .ok (file, false)

/-- An analyzed file, and whether the cache served it. -/
def loadPath (engine : Engine) (tree : FileTree) (path : Path) (maxSize : Nat) :
    Work (Except FileFailure (AnalyzedFile × Bool)) := do
  match tree.stat path with
  | .error failure => return .error (.ofAccess path.text failure)
  | .ok stat =>
    if stat.isDir then return .error (.unreadable path.text "is a directory")
    else engine.loadKnown tree path stat.modified stat.size maxSize

/-- Count a file that was looked at. -/
def record (cached : Bool) : Work Unit :=
  modify fun session =>
    { session with
      scanned := session.scanned + 1
      cacheHits := session.cacheHits + if cached then 1 else 0 }

/-- Run the work of a call: its result, and the engine with what its cache has learnt. -/
def run {α : Type} (engine : Engine) (work : Work α) : α × Engine :=
  let (result, session) := StateT.run (m := Id) work { cache := engine.cache }
  (result, { engine with cache := session.cache })

/-- The analysis of a file of the workspace, if it can be read as text. -/
def analyze (engine : Engine) (tree : FileTree) (path : String) : Option AnalyzedFile × Engine :=
  engine.run do
    let absolute := engine.root.resolveIn path
    match ← engine.loadPath tree absolute engine.config.walker.maxFileSize with
    | .ok (file, _) => return some file.withoutScore
    | .error _ => return none

/-- Drop everything that is cached. -/
def invalidate (engine : Engine) : Engine := { engine with cache := engine.cache.invalidateAll }

/-- Drop what is cached of a path; whether there was something. -/
def invalidatePath (engine : Engine) (path : String) : Bool × Engine :=
  let (cache, dropped) := engine.cache.invalidate (engine.root.resolveIn path)
  (dropped, { engine with cache := cache })

end Engine

end SourceRetrieval
