/-
The options of a search.

* `SearchOptions` is what a caller asks for, which may be anything;
* `SearchOptions.resolve` brings it into range, with a note on each value replaced.

Design notes: each option is settled on its own, to a value and perhaps a note,
so the notes are as many as the values replaced.
-/
import SourceRetrieval.Config.Basic
import SourceRetrieval.Query.Kind
import SourceRetrieval.Listing

namespace SourceRetrieval

/-- The most files of any answer. -/
def maxFilesCeiling : Nat := 100

/-- The most lines of an excerpt before and after a match. -/
def maxContextWindow : Nat := 50

/-- What a caller asks for. -/
structure SearchOptions where
  maxFiles : Option Int := none
  includeTests : Bool := false
  includeDocs : Bool := false
  includeLanguages : Option (List String) := none
  maxFileSize : Option Int := none
  contextWindow : Option Int := none
  kind : Option SearchKind := none
  fuzzyThreshold : Option Float := none
  /-- In addition to the patterns of the configuration. -/
  excludePatterns : List String := []
  /-- Nought is no limit. -/
  timeoutMs : Option Nat := none
  maxHops : Option Int := none
  deriving Inhabited

/-- Options that are in range. -/
structure ResolvedOptions where
  maxFiles : Nat
  includeTests : Bool
  includeDocs : Bool
  includeLanguages : List String
  maxFileSize : Nat
  contextWindow : Nat
  fuzzyThreshold : Float32
  excludePatterns : List String
  timeoutMs : Option Nat
  maxHops : Nat
  /-- Notes on the values replaced. -/
  adjustments : List String
  deriving Inhabited

namespace SearchOptions

/-- A value, with a note if it is not the one asked for. -/
abbrev Settled (α : Type) := α × Option String

/-- A number brought between two others. -/
def clamp (low high n : Nat) : Nat := min high (max low n)

/-- The note on a replaced value. -/
def note (name asked verb settled : String) : Option String :=
  some (name ++ " " ++ asked ++ " " ++ verb ++ " " ++ settled)

/-- A number that a caller may ask for: one below `low` is replaced with the usual one, one
above `high` with `high`. -/
def settleNumber (name : String) (low high : Nat) (usual : Nat) : Option Int → Settled Nat
  | none => (usual, none)
  | some n =>
    if n < low then (usual, note name (toString n) "replaced with" (toString usual))
    else if (high : Int) < n then (high, note name (toString n) "capped at" (toString high))
    else (n.toNat, none)

/-- The most files that a configuration allows. -/
def filesLimit (config : Config) : Nat := clamp 1 maxFilesCeiling config.search.maxFilesLimit

/-- The number of files. -/
def settleFiles (config : Config) (kind : SearchKind) (asked : Option Int) : Settled Nat :=
  let limit := filesLimit config
  settleNumber "maxFiles" 1 limit (min kind.defaultMaxFiles limit) asked

/-- The likeness of names. -/
def settleThreshold (config : Config) : Option Float → Settled Float32
  | none => (config.search.fuzzyThreshold, none)
  | some asked =>
    let usual := config.search.fuzzyThreshold
    if 0 ≤ asked && asked ≤ 1 then (Number.narrow asked, none)
    else (usual, note "fuzzyThreshold" (Number.shortest asked) "replaced with"
      (Number.shortest32 usual))

/-- The size of files, which has no upper limit. -/
def settleSize (config : Config) (asked : Option Int) : Settled Nat :=
  settleNumber "maxFileSize" 1 (Nat.pow 2 64) config.walker.maxFileSize asked

/-- The lines before and after a match. -/
def settleWindow (config : Config) (asked : Option Int) : Settled Nat :=
  settleNumber "contextWindow" 0 maxContextWindow config.search.contextWindow asked

/-- The number of imports followed. -/
def settleHops (config : Config) : Option Int → Settled Nat
  | none => (clamp 1 3 config.relations.maxHops, none)
  | some asked =>
    let hops := clamp 1 3 asked.toNat
    if (hops : Int) = asked then (hops, none)
    else (hops, note "maxHops" (toString asked) "clamped to" (toString hops))

/-- The patterns of the configuration and those of the caller that are not among them. -/
def allExcludes (config asked : List String) : List String :=
  asked.foldl pushUnique config

/-- Bring the options into range. -/
def resolve (options : SearchOptions) (config : Config) (kind : SearchKind) : ResolvedOptions :=
  let (maxFiles, filesNote) := settleFiles config kind options.maxFiles
  let (threshold, thresholdNote) := settleThreshold config options.fuzzyThreshold
  let (maxFileSize, sizeNote) := settleSize config options.maxFileSize
  let (window, windowNote) := settleWindow config options.contextWindow
  let (maxHops, hopsNote) := settleHops config options.maxHops
  let timeout := options.timeoutMs.getD config.search.timeoutMs
  { maxFiles := maxFiles
    includeTests := options.includeTests
    includeDocs := options.includeDocs
    includeLanguages := ((options.includeLanguages.getD []).map Text.trimmed).filter (!·.isEmpty)
    maxFileSize := maxFileSize
    contextWindow := window
    fuzzyThreshold := threshold
    excludePatterns := allExcludes config.walker.excludePatterns options.excludePatterns
    timeoutMs := if timeout = 0 then none else some timeout
    maxHops := maxHops
    adjustments := [filesNote, thresholdNote, sizeNote, windowNote, hopsNote].filterMap id }

end SearchOptions

end SourceRetrieval
