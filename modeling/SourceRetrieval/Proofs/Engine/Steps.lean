/-
A load in steps.

To load a file an engine looks at it, asks the cache, reads it, and analyzes and
records it.  Between two of these steps the files and the cache may change.

* `Stage` — how far a load has come, and `Engine.advance` its next step;
* `loadPath_eq_advance` — if nothing comes in between, the four steps are
  `Engine.loadPath`;
* `lookAt_cases`, `lookUp_cases`, `fetch_cases`, `recordRead_cases` — what each of
  the steps can do.
-/
import SourceRetrieval.Proofs.Engine.Faithful

namespace SourceRetrieval

open MemoryTree SourceRetrieval.Path

/-- A file to load, and how many bytes it may have. -/
structure Request where
  path : Path
  maxSize : Nat

/-- How far a load has come. -/
inductive Stage where
  | begun
  /-- The file has been looked at. -/
  | known (modified size : Nat)
  /-- The cache has been asked in vain. -/
  | missed (modified size : Nat)
  /-- The file has been read. -/
  | read (modified size : Nat) (bytes : ByteArray)
  | done (result : Except FileFailure (AnalyzedFile × Bool))

namespace Engine

/-- Look at a file. -/
def lookAt (tree : FileTree) (request : Request) : Stage :=
  match tree.stat request.path with
  | .error failure => .done (.error (.ofAccess request.path.text failure))
  | .ok stat =>
    if stat.isDir then .done (.error (.unreadable request.path.text "is a directory"))
    else .known stat.modified stat.size

/-- Ask the cache for a file. -/
def lookUp (cache : AnalysisCache) (request : Request) (modified size : Nat) :
    Stage × AnalysisCache :=
  match cache.get request.path modified size with
  | (some file, cache) => (.done (.ok (file, true)), cache)
  | (none, cache) => (.missed modified size, cache)

/-- Read a file unless it is known to be too large. -/
def fetch (tree : FileTree) (request : Request) (modified size : Nat) : Stage :=
  if request.maxSize < size then .done (.error (.tooLarge size request.maxSize))
  else match tree.read request.path with
    | .error failure => .done (.error (.ofAccess request.path.text failure))
    | .ok bytes => .read modified size bytes

/-- Analyze what has been read, unless it is too large, and record the analysis. -/
def recordRead (engine : Engine) (cache : AnalysisCache) (request : Request)
    (modified size : Nat) (bytes : ByteArray) : Stage × AnalysisCache :=
  if request.maxSize < bytes.size then
    (.done (.error (.tooLarge bytes.size request.maxSize)), cache)
  else match engine.analysisOf request.path bytes with
    | .error failure => (.done (.error failure), cache)
    | .ok file =>
      (.done (.ok (file, false)), cache.insert request.path modified size file)

/-- The next step of a load. -/
def advance (engine : Engine) (tree : FileTree) (request : Request) :
    Stage × AnalysisCache → Stage × AnalysisCache
  | (.begun, cache) => (lookAt tree request, cache)
  | (.known modified size, cache) => lookUp cache request modified size
  | (.missed modified size, cache) => (fetch tree request modified size, cache)
  | (.read modified size bytes, cache) => engine.recordRead cache request modified size bytes
  | (.done result, cache) => (.done result, cache)

/-! ### Loads that nothing comes between -/

theorem loadFresh_eq_advance (engine : Engine) (tree : FileTree) (request : Request)
    (modified size : Nat) (session : Session) :
    let step := engine.advance tree request
    ∃ result cache, step (step (.missed modified size, session.cache)) = (.done result, cache)
      ∧ engine.loadFresh tree request.path modified size request.maxSize session
        = (result, { session with cache := cache }) := by
  intro step
  have hmissed : step (.missed modified size, session.cache)
      = (fetch tree request modified size, session.cache) := rfl
  rw [hmissed, fetch, loadFresh_eq, analyzeFile_eq_analysisOf]
  by_cases hsize : request.maxSize < size
  · simp only [if_pos hsize]
    exact ⟨_, _, rfl, rfl⟩
  · simp only [if_neg hsize]
    cases tree.read request.path with
    | error failure => exact ⟨_, _, rfl, rfl⟩
    | ok bytes =>
      have hread : step (.read modified size bytes, session.cache)
          = engine.recordRead session.cache request modified size bytes := rfl
      simp only [hread, recordRead]
      by_cases hbytes : request.maxSize < bytes.size
      · simp only [if_pos hbytes]
        exact ⟨_, _, rfl, rfl⟩
      · simp only [if_neg hbytes]
        cases engine.analysisOf request.path bytes with
        | error failure => exact ⟨_, _, rfl, rfl⟩
        | ok file => exact ⟨_, _, rfl, rfl⟩

/-- A load whose four steps follow upon each other is a load as the engine makes it. -/
theorem loadPath_eq_advance (engine : Engine) (tree : FileTree) (request : Request)
    (session : Session) :
    let step := engine.advance tree request
    ∃ result cache, step (step (step (step (.begun, session.cache)))) = (.done result, cache)
      ∧ engine.loadPath tree request.path request.maxSize session
        = (result, { session with cache := cache }) := by
  intro step
  have hbegun : step (.begun, session.cache) = (lookAt tree request, session.cache) := rfl
  rw [hbegun, lookAt, loadPath]
  cases tree.stat request.path with
  | error failure => exact ⟨_, _, rfl, rfl⟩
  | ok stat =>
    by_cases hdir : stat.isDir = true
    · simp only [if_pos hdir]
      exact ⟨_, _, rfl, rfl⟩
    · simp only [if_neg hdir, loadKnown_eq]
      have hknown : step (.known stat.modified stat.size, session.cache)
          = lookUp session.cache request stat.modified stat.size := rfl
      rw [hknown, lookUp, asked]
      obtain ⟨hit, cache⟩ := session.cache.get request.path stat.modified stat.size
      cases hit with
      | some file => exact ⟨_, _, rfl, rfl⟩
      | none =>
        exact engine.loadFresh_eq_advance tree request stat.modified stat.size
          { session with cache := cache }

/-! ### What a step can do -/

section Cases

variable {engine : Engine} {memory : MemoryTree} {request : Request} {cache : AnalysisCache}
  {modified size : Nat}

theorem lookAt_cases (memory : MemoryTree) (request : Request) :
    (∃ failure, lookAt memory.tree request = .done (.error failure))
      ∨ ∃ file, memory.file? request.path = some file
        ∧ lookAt memory.tree request = .known file.modified file.content.size := by
  rw [lookAt]
  cases hstat : memory.tree.stat request.path with
  | error failure => exact .inl ⟨_, rfl⟩
  | ok stat =>
    by_cases hdir : stat.isDir = true
    · simp only [if_pos hdir]
      exact .inl ⟨_, rfl⟩
    · have hknown : (memory.stat request.path).toOption = some stat := by
        rw [show memory.stat request.path = .ok stat from hstat]
        rfl
      obtain ⟨-, file, hfile, rfl⟩ := file?_of_stat hknown (by simpa using hdir)
      exact .inr ⟨file, hfile, rfl⟩

theorem lookUp_cases (cache : AnalysisCache) (request : Request) (modified size : Nat) :
    (lookUp cache request modified size).1 = .missed modified size
      ∨ ∃ entry ∈ cache.entries, entry.path.components = request.path.components
        ∧ entry.modified = modified
        ∧ (lookUp cache request modified size).1 = .done (.ok (entry.file, true)) := by
  rw [lookUp]
  cases hget : cache.get request.path modified size with
  | mk hit after =>
    cases hit with
    | none => exact .inl rfl
    | some file =>
      have hhit : (cache.get request.path modified size).1 = some file := by rw [hget]
      obtain ⟨entry, hentry, hpath, hmodified, -, rfl⟩ := AnalysisCache.exists_of_get hhit
      exact .inr ⟨entry, hentry, hpath, hmodified, rfl⟩

theorem mem_of_mem_lookUp {entry : CacheEntry}
    (h : entry ∈ (lookUp cache request modified size).2.entries) : entry ∈ cache.entries := by
  have hget : (lookUp cache request modified size).2
      = (cache.get request.path modified size).2 := by
    rw [lookUp]
    obtain ⟨hit, after⟩ := cache.get request.path modified size
    cases hit <;> rfl
  rw [hget] at h
  exact AnalysisCache.mem_of_mem_get h

theorem fetch_cases (memory : MemoryTree) (request : Request) (modified size : Nat) :
    (∃ failure, fetch memory.tree request modified size = .done (.error failure))
      ∨ ∃ file, memory.file? request.path = some file
        ∧ fetch memory.tree request modified size = .read modified size file.content := by
  rw [fetch]
  split
  · exact .inl ⟨_, rfl⟩
  · cases hread : memory.tree.read request.path with
    | error failure => exact .inl ⟨_, rfl⟩
    | ok bytes =>
      obtain ⟨file, hfile, rfl⟩ := file?_of_read hread
      exact .inr ⟨file, hfile, rfl⟩

theorem recordRead_cases (engine : Engine) (cache : AnalysisCache) (request : Request)
    (modified size : Nat) (bytes : ByteArray) :
    (∃ failure, engine.recordRead cache request modified size bytes
        = (.done (.error failure), cache))
      ∨ ∃ file, engine.analysisOf request.path bytes = .ok file
        ∧ engine.recordRead cache request modified size bytes
          = (.done (.ok (file, false)), cache.insert request.path modified size file) := by
  rw [recordRead]
  split
  · exact .inl ⟨_, rfl⟩
  · cases hanalysis : engine.analysisOf request.path bytes with
    | error failure => exact .inl ⟨_, rfl⟩
    | ok file => exact .inr ⟨file, rfl, rfl⟩

end Cases

end Engine

end SourceRetrieval
