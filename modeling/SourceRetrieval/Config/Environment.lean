/-
Settings from the environment.

* `Config.override` puts the variables of the environment in the place of settings;
* `Config.settle` is the whole way from a configuration file, if there is one, and
  the environment to a valid configuration.

Design notes: a variable that does not read as its setting is passed over.
-/
import SourceRetrieval.Config.File

namespace SourceRetrieval

/-- The variables of an environment. -/
abbrev Environment := List (String × String)

namespace Config

/-- The names of the variables that settings can come from. -/
def variableNames : List String :=
  ["CODE_CONTEXT_WORKSPACE", "CODE_CONTEXT_MAX_FILE_SIZE", "CODE_CONTEXT_FUZZY_THRESHOLD",
    "CODE_CONTEXT_TIMEOUT_MS", "CODE_CONTEXT_CACHE_CAPACITY", "CODE_CONTEXT_WORKER_THREADS"]

/-- The setting that a variable gives, or else the one there was. -/
def fromVariable {α : Type} (env : Environment) (name : String) (read? : String → Option α)
    (setting : α) : α :=
  ((env.lookup name).bind read?).getD setting

/-- A natural number of 64 bits. -/
def natural64? (text : String) : Option Nat := Number.unsigned? 64 text

/-- A root, unless it is blank. -/
def root? (text : String) : Option (Option Path) :=
  if (Text.trim text.toList).isEmpty then none else some (some ⟨text⟩)

/-- Put the variables of the environment in the place of settings. -/
def override (env : Environment) (config : Config) : Config :=
  { config with
    workspace.root := fromVariable env "CODE_CONTEXT_WORKSPACE" root? config.workspace.root
    walker.maxFileSize :=
      fromVariable env "CODE_CONTEXT_MAX_FILE_SIZE" natural64? config.walker.maxFileSize
    search.fuzzyThreshold :=
      fromVariable env "CODE_CONTEXT_FUZZY_THRESHOLD" Number.float32? config.search.fuzzyThreshold
    search.timeoutMs := fromVariable env "CODE_CONTEXT_TIMEOUT_MS" natural64? config.search.timeoutMs
    cache.capacity := fromVariable env "CODE_CONTEXT_CACHE_CAPACITY" natural64? config.cache.capacity
    engine.workerThreads :=
      fromVariable env "CODE_CONTEXT_WORKER_THREADS" natural64? config.engine.workerThreads }

/-- The configuration of a file, if there is one, and of the environment. -/
def settle (file : Option ByteArray) (env : Environment) : Except Failure Config := do
  let config ← match file with
    | some bytes => load bytes
    | none => pure {}
  let config := config.override env
  config.validate
  return config

end Config

end SourceRetrieval
