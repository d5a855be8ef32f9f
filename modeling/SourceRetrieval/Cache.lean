/-
The cache of analyzed files.

* `AnalysisCache.get` serves an entry while the time and the size of its file are
  what they were when it was recorded, and drops it otherwise;
* `AnalysisCache.insert` records an entry and drops the one that has not been
  asked for the longest if there is no room.

Design notes: the entries are a list, the one asked for last in front, so
that dropping the last ones keeps the cache small.  A capacity of nought is a
cache that is switched off and counts nothing.
-/
import SourceRetrieval.Analysis

namespace SourceRetrieval

/-- A recorded analysis. -/
structure CacheEntry where
  path : Path
  modified : Nat
  size : Nat
  file : AnalyzedFile
  deriving Inhabited

/-- A cache of analyzed files. -/
structure AnalysisCache where
  capacity : Nat
  /-- The entry asked for last comes first; no two have the same path. -/
  entries : List CacheEntry := []
  hits : Nat := 0
  misses : Nat := 0
  deriving Inhabited

namespace AnalysisCache

/-- A cache that may record something. -/
def isEnabled (cache : AnalysisCache) : Bool := cache.capacity != 0

/-- A cache without entries. -/
def isEmpty (cache : AnalysisCache) : Bool := cache.entries.isEmpty

/-- The entry of a path. -/
def entry? (cache : AnalysisCache) (path : Path) : Option CacheEntry :=
  cache.entries.find? (·.path.same path)

/-- The entries of other paths. -/
def others (cache : AnalysisCache) (path : Path) : List CacheEntry :=
  cache.entries.filter (!·.path.same path)

/-- Whether an entry is of the file as it stands. -/
def isFresh (entry : CacheEntry) (modified size : Nat) : Bool :=
  entry.modified = modified && entry.size = size

/-- The analysis recorded for a path, if the file has not changed since. -/
def get (cache : AnalysisCache) (path : Path) (modified size : Nat) :
    Option AnalyzedFile × AnalysisCache :=
  if !cache.isEnabled then (none, cache)
  else match cache.entry? path with
    | none => (none, { cache with misses := cache.misses + 1 })
    | some entry =>
      if isFresh entry modified size then
        (some entry.file,
          { cache with entries := entry :: cache.others path, hits := cache.hits + 1 })
      -- The file has changed, and the entry will not be of use again.
      else (none, { cache with entries := cache.others path, misses := cache.misses + 1 })

/-- Record an analysis. -/
def insert (cache : AnalysisCache) (path : Path) (modified size : Nat) (file : AnalyzedFile) :
    AnalysisCache :=
  let entries := ⟨path, modified, size, file⟩ :: cache.others path
  { cache with entries := entries.take cache.capacity }

/-- Drop the entry of a path; whether there was one. -/
def invalidate (cache : AnalysisCache) (path : Path) : AnalysisCache × Bool :=
  ({ cache with entries := cache.others path }, (cache.entry? path).isSome)

/-- Drop all entries and count from the beginning. -/
def invalidateAll (cache : AnalysisCache) : AnalysisCache := { capacity := cache.capacity }

/-- The share of hits. -/
def hitRate (cache : AnalysisCache) : Float :=
  let total := cache.hits + cache.misses
  if total = 0 then 0 else Float.ofNat cache.hits / Float.ofNat total

end AnalysisCache

end SourceRetrieval
