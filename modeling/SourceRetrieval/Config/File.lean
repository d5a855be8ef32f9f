/-
The configuration file.

* `Config.ofToml?` reads the settings that a document gives, the others keeping
  their usual values;
* `Config.print?` writes all settings;
* `Config.load` goes from the bytes of a file to a valid configuration.

Design notes: unknown keys are passed over, a value of the wrong type is an
error.  A list stands for a section whose settings it gives in order, and a date for a
section that gives none.
-/
import SourceRetrieval.Config.Basic
import SourceRetrieval.Toml.Reader
import SourceRetrieval.Toml.Printer

namespace SourceRetrieval.Config

/-- The settings of a section by name. -/
def settings? (names : List String) : Toml → Option (List (String × Toml))
  | .table _ _ entries => some entries
  | .array items => some (names.zip items)
  | .tables items => some (names.zip items.reverse)
  | .dateTime => some []
  | _ => none

/-- Read a setting, which keeps its usual value if it is not given. -/
def setting? {α : Type} (entries : List (String × Toml)) (name : String)
    (read? : Toml → Option α) (usual : α) : Option α :=
  match entries.lookup name with
  | some value => read? value
  | none => some usual

/-- A text. -/
def string? : Toml → Option String
  | .string text => some text
  | _ => none

/-- A natural number. -/
def natural? : Toml → Option Nat
  | .integer n => if 0 ≤ n then some n.toNat else none
  | _ => none

/-- A truth value. -/
def boolean? : Toml → Option Bool
  | .boolean value => some value
  | _ => none

/-- A number; a whole one is a number too. -/
def float? : Toml → Option Float
  | .float value => some value
  | .integer n => some (Float.ofInt n)
  | _ => none

/-- A number of 32 bits; a whole one is rounded once. -/
def float32? : Toml → Option Float32
  | .float value => some (Number.narrow value)
  | .integer n => some (Float32.ofInt n)
  | _ => none

/-- A list of texts. -/
def strings? : Toml → Option (List String)
  | .array items => items.mapM string?
  | _ => none

/-- The section on the workspace. -/
def workspace? (part : Toml) : Option WorkspaceConfig := do
  let given ← settings? ["root"] part
  return { root := ← setting? given "root" (fun v => (string? v).map fun text => some ⟨text⟩) none }

/-- The section on which files are looked at. -/
def walker? (part : Toml) : Option WalkerConfig := do
  let names := ["max_file_size", "include_patterns", "exclude_patterns", "respect_ignore_files"]
  let given ← settings? names part
  let usual : WalkerConfig := {}
  return {
    maxFileSize := ← setting? given "max_file_size" natural? usual.maxFileSize
    includePatterns := ← setting? given "include_patterns" strings? usual.includePatterns
    excludePatterns := ← setting? given "exclude_patterns" strings? usual.excludePatterns
    respectIgnoreFiles :=
      ← setting? given "respect_ignore_files" boolean? usual.respectIgnoreFiles }

/-- The section on how files are searched. -/
def search? (part : Toml) : Option SearchConfig := do
  let names := ["max_files_limit", "fuzzy_threshold", "context_window", "min_score", "timeout_ms"]
  let given ← settings? names part
  let usual : SearchConfig := {}
  return {
    maxFilesLimit := ← setting? given "max_files_limit" natural? usual.maxFilesLimit
    fuzzyThreshold :=
      ← setting? given "fuzzy_threshold" float32? usual.fuzzyThreshold
    contextWindow := ← setting? given "context_window" natural? usual.contextWindow
    minScore := ← setting? given "min_score" float? usual.minScore
    timeoutMs := ← setting? given "timeout_ms" natural? usual.timeoutMs }

/-- The section on related files. -/
def relations? (part : Toml) : Option RelationsConfig := do
  let given ← settings? ["max_hops", "max_files"] part
  let usual : RelationsConfig := {}
  return {
    maxHops := ← setting? given "max_hops" natural? usual.maxHops
    maxFiles := ← setting? given "max_files" natural? usual.maxFiles }

/-- The section on the cache. -/
def cache? (part : Toml) : Option CacheConfig := do
  let given ← settings? ["enabled", "capacity"] part
  let usual : CacheConfig := {}
  return {
    enabled := ← setting? given "enabled" boolean? usual.enabled
    capacity := ← setting? given "capacity" natural? usual.capacity }

/-- The section on how the engine works. -/
def engine? (part : Toml) : Option EngineConfig := do
  let given ← settings? ["worker_threads"] part
  return { workerThreads := ← setting? given "worker_threads" natural? 0 }

/-- The settings that a document gives. -/
def ofToml? (document : Toml) : Option Config := do
  let names := ["workspace", "walker", "search", "relations", "cache", "engine"]
  let given ← settings? names document
  return {
    workspace := ← setting? given "workspace" workspace? {}
    walker := ← setting? given "walker" walker? {}
    search := ← setting? given "search" search? {}
    relations := ← setting? given "relations" relations? {}
    cache := ← setting? given "cache" cache? {}
    engine := ← setting? given "engine" engine? {} }

/-- The natural numbers among the settings. -/
def naturals (config : Config) : List Nat :=
  [config.walker.maxFileSize, config.search.maxFilesLimit, config.search.contextWindow,
    config.search.timeoutMs, config.relations.maxHops, config.relations.maxFiles,
    config.cache.capacity, config.engine.workerThreads]

/-- All settings, in sections. -/
def sections (config : Config) : List Toml.Section :=
  let ⟨workspace, walker, search, relations, cache, engine⟩ := config
  [⟨"workspace", (workspace.root.map fun root => ("root", .string root.text)).toList⟩,
    ⟨"walker", [
      ("max_file_size", .natural walker.maxFileSize),
      ("include_patterns", .strings walker.includePatterns),
      ("exclude_patterns", .strings walker.excludePatterns),
      ("respect_ignore_files", .boolean walker.respectIgnoreFiles)]⟩,
    ⟨"search", [
      ("max_files_limit", .natural search.maxFilesLimit),
      ("fuzzy_threshold", .float search.fuzzyThreshold.toFloat),
      ("context_window", .natural search.contextWindow),
      ("min_score", .float search.minScore),
      ("timeout_ms", .natural search.timeoutMs)]⟩,
    ⟨"relations", [
      ("max_hops", .natural relations.maxHops), ("max_files", .natural relations.maxFiles)]⟩,
    ⟨"cache", [("enabled", .boolean cache.enabled), ("capacity", .natural cache.capacity)]⟩,
    ⟨"engine", [("worker_threads", .natural engine.workerThreads)]⟩]

/-- The text of a configuration file with all settings; none if a number is too large for
the format. -/
def print? (config : Config) : Option String :=
  if config.naturals.all (· < Nat.pow 2 63) then some (Toml.printDocument config.sections) else none

/-- The configuration in the bytes of a file. -/
def load (bytes : ByteArray) : Except Failure Config := do
  let some text := String.fromUTF8? bytes
    | .error (.config (.loadFailed
        "Failed to read config file: stream did not contain valid UTF-8"))
  let some config := (Toml.read? text).bind ofToml?
    | .error (.config (.parseFailed "Invalid TOML:"))
  config.validate
  return config

end SourceRetrieval.Config
