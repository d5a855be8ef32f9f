/-
The configuration of a search engine.

* `Config` holds the settings, each with its usual value;
* `Config.validate` refuses settings that make no sense.
-/
import SourceRetrieval.Failure
import SourceRetrieval.Number.Print
import SourceRetrieval.Path

namespace SourceRetrieval

/-- Where the files are. -/
structure WorkspaceConfig where
  root : Option Path := none
  deriving Inhabited

/-- Which files are looked at. -/
structure WalkerConfig where
  /-- In bytes. -/
  maxFileSize : Nat := 1048576
  /-- Without patterns every file is included. -/
  includePatterns : List String := []
  excludePatterns : List String :=
    ["node_modules", "target", ".git", "dist", "build", "out", "coverage", "__pycache__", ".venv",
      "venv", "vendor", ".next"]
  /-- Leave out what the ignore files of the workspace name. -/
  respectIgnoreFiles : Bool := true
  deriving Inhabited

/-- How files are searched. -/
structure SearchConfig where
  /-- The most files that a caller may ask for. -/
  maxFilesLimit : Nat := 50
  /-- How alike two names must be to be taken for each other. -/
  fuzzyThreshold : Float32 := 0.6
  /-- How many lines an excerpt holds before and after a match. -/
  contextWindow : Nat := 3
  /-- Files with a lower score are left out. -/
  minScore : Float := 1
  /-- How long a search may take, in milliseconds; none is no limit. -/
  timeoutMs : Nat := 10000
  deriving Inhabited

/-- How related files are found. -/
structure RelationsConfig where
  /-- How many imports are followed one after the other. -/
  maxHops : Nat := 2
  maxFiles : Nat := 10
  deriving Inhabited

/-- The cache of analyzed files. -/
structure CacheConfig where
  enabled : Bool := true
  capacity : Nat := 2048
  deriving Inhabited

/-- How the engine works. -/
structure EngineConfig where
  /-- Nought stands for as many as there are processors. -/
  workerThreads : Nat := 0
  deriving Inhabited

/-- All settings. -/
structure Config where
  workspace : WorkspaceConfig := {}
  walker : WalkerConfig := {}
  search : SearchConfig := {}
  relations : RelationsConfig := {}
  cache : CacheConfig := {}
  engine : EngineConfig := {}
  deriving Inhabited

namespace Config

/-- What is wrong with a setting, if anything. -/
def problem? (config : Config) : Option (String × String) :=
  let threshold := config.search.fuzzyThreshold
  let minScore := config.search.minScore
  let maxHops := config.relations.maxHops
  let positive := "must be greater than 0"
  if config.walker.maxFileSize = 0 then some ("walker.max_file_size", positive)
  else if config.search.maxFilesLimit = 0 then some ("search.max_files_limit", positive)
  else if !(0 ≤ threshold && threshold ≤ 1) then
    some ("search.fuzzy_threshold", "must be between 0.0 and 1.0, got " ++ Number.shortest32 threshold)
  else if !(0 ≤ minScore && minScore ≤ 100) then
    some ("search.min_score", "must be between 0 and 100, got " ++ Number.shortest minScore)
  else if maxHops < 1 || 3 < maxHops then
    some ("relations.max_hops", "must be between 1 and 3, got " ++ toString maxHops)
  else if config.relations.maxFiles = 0 then some ("relations.max_files", positive)
  else none

/-- Refuse settings that make no sense. -/
def validate (config : Config) : Except Failure Unit :=
  match config.problem? with
  | some (key, reason) => .error (.config (.invalidValue key reason))
  | none => .ok ()

end Config

end SourceRetrieval
