/-
The cache and the files as they stand.

A cache entry is faithful (`IsFaithful`) if it holds what the engine makes of
the file, should the file still have the time of the entry.

* `loadKnown_spec` — with faithful entries a file is loaded as if there were no
  cache, and the entries stay faithful;
* `IsFaithful.of_later` — entries stay faithful when files are changed.

Design notes: an entry never has a time that is still to come, and a change gives
a file a new time, so a changed file no longer has the time of an entry.  An
entry is looked up by components but holds the path as it was written; that is
why the paths of entries have to be plain.
-/
import SourceRetrieval.Engine.Search
import SourceRetrieval.Proofs.Cache.Lookup
import SourceRetrieval.Proofs.FileTree.Change
import SourceRetrieval.Proofs.FileTree.Listing

namespace SourceRetrieval

open MemoryTree SourceRetrieval.Path

namespace Engine

/-! ### Faithful entries -/

/-- What an engine makes of the bytes of a file. -/
def analysisOf (engine : Engine) (path : Path) (bytes : ByteArray) :
    Except FileFailure AnalyzedFile := do
  let content ← decodeContent path.text bytes
  let language := Language.ofPath? path
  return .make path (engine.root.relativeTo path) content language
    (engine.rules.outline language content)

theorem analyzeFile_eq_analysisOf (engine : Engine) (tree : FileTree) (path : Path)
    (size maxSize : Nat) :
    engine.analyzeFile tree path size maxSize =
      if maxSize < size then .error (.tooLarge size maxSize)
      else match tree.read path with
        | .error failure => .error (.ofAccess path.text failure)
        | .ok bytes =>
          if maxSize < bytes.size then .error (.tooLarge bytes.size maxSize)
          else engine.analysisOf path bytes := by
  rw [analyzeFile]
  by_cases hsize : maxSize < size
  · rw [if_pos hsize, if_pos hsize]
    rfl
  · rw [if_neg hsize, if_neg hsize]
    cases tree.read path with
    | error failure => rfl
    | ok bytes =>
      by_cases hbytes : maxSize < bytes.size
      · simp only [Except.mapError, bind, Except.bind, if_pos hbytes]
      · simp only [Except.mapError, bind, Except.bind, if_neg hbytes]
        rfl

/-- An analysis is made of the content and its outline. -/
theorem exists_make_of_analysisOf {engine : Engine} {path : Path} {bytes : ByteArray}
    {file : AnalyzedFile} (h : engine.analysisOf path bytes = .ok file) :
    ∃ content, file = .make path (engine.root.relativeTo path) content (Language.ofPath? path)
      (engine.rules.outline (Language.ofPath? path) content) := by
  rw [analysisOf] at h
  cases hdecode : decodeContent path.text bytes with
  | error failure =>
    rw [hdecode] at h
    cases h
  | ok content =>
    rw [hdecode] at h
    cases h
    exact ⟨content, rfl⟩

theorem path_of_analysisOf {engine : Engine} {path : Path} {bytes : ByteArray}
    {file : AnalyzedFile} (h : engine.analysisOf path bytes = .ok file) : file.path = path := by
  obtain ⟨content, rfl⟩ := exists_make_of_analysisOf h
  rfl

/-- The entry is of the past, and of its file as it stands if that still has its time. -/
structure IsFaithful (engine : Engine) (memory : MemoryTree) (entry : CacheEntry) : Prop where
  plain : entry.path.IsPlain
  past : entry.modified ≤ timeOf memory.clock
  analysis : ∀ file, memory.file? entry.path = some file → file.modified = entry.modified →
    engine.analysisOf entry.path file.content = .ok entry.file

/-- All entries of the cache are faithful. -/
def Trusts (engine : Engine) (memory : MemoryTree) (cache : AnalysisCache) : Prop :=
  ∀ entry ∈ cache.entries, engine.IsFaithful memory entry

/-- Time and size of a path are those of its file as it stands. -/
structure IsCurrent (memory : MemoryTree) (path : Path) (modified size : Nat) : Prop where
  plain : path.IsPlain
  allowed : ¬memory.Denies path.components
  file : ∃ file, memory.file? path = some file ∧ file.modified = modified
    ∧ file.content.size = size

variable {engine : Engine} {memory : MemoryTree} {path : Path} {modified size maxSize : Nat}

/-- A path that is known to be a file is current. -/
theorem isCurrent_of_stat (hplain : path.IsPlain) {known : FileStat}
    (h : (memory.tree.stat path).toOption = some known) (hdir : known.isDir = false) :
    IsCurrent memory path known.modified known.size := by
  obtain ⟨hallowed, file, hfile, rfl⟩ := file?_of_stat h hdir
  exact ⟨hplain, hallowed, file, hfile, rfl, rfl⟩

theorem read_of_file? (hallowed : ¬memory.Denies path.components) {file : MemoryFile}
    (h : memory.file? path = some file) : memory.tree.read path = .ok file.content := by
  change memory.read path = _
  rw [MemoryTree.read, checkAccess_eq_ok_iff.mpr hallowed]
  simp only [bind, Except.bind, h]
  rfl

/-- A current file is analyzed unless it is too large. -/
theorem analyzeFile_eq (hcurrent : IsCurrent memory path modified size) :
    ∃ file, memory.file? path = some file ∧ file.modified = modified
      ∧ engine.analyzeFile memory.tree path size maxSize
        = if maxSize < size then .error (.tooLarge size maxSize)
          else engine.analysisOf path file.content := by
  obtain ⟨file, hfile, hmodified, hsize⟩ := hcurrent.file
  refine ⟨file, hfile, hmodified, ?_⟩
  rw [analyzeFile_eq_analysisOf, read_of_file? hcurrent.allowed hfile]
  by_cases hlarge : maxSize < size
  · rw [if_pos hlarge, if_pos hlarge]
  · simp only [hsize, if_neg hlarge]

/-- What is recorded of a current file is faithful. -/
theorem isFaithful_of_analyzeFile (hcurrent : IsCurrent memory path modified size)
    {analyzed : AnalyzedFile}
    (h : engine.analyzeFile memory.tree path size maxSize = .ok analyzed) :
    engine.IsFaithful memory ⟨path, modified, size, analyzed⟩ := by
  obtain ⟨file, hfile, hmodified, hanalyze⟩ := analyzeFile_eq hcurrent
  rw [hanalyze] at h
  split at h
  · cases h
  · refine ⟨hcurrent.plain, ?_, fun other hother _ => ?_⟩
    · rw [← hmodified]
      exact memory.timely file (file?_eq_some_iff.mp hfile).1
    · obtain rfl : file = other := Option.some_inj.mp (hfile.symm.trans hother)
      exact h

/-! ### Loading -/

/-- Work goes on with what the work before it gave and left. -/
theorem work_bind {α β : Type} (work : Work α) (next : α → Work β) (session : Session) :
    (work >>= next) session = next (work session).1 (work session).2 := rfl

theorem fst_run {α : Type} (engine : Engine) (work : Work α) :
    (engine.run work).1 = (work { cache := engine.cache }).1 := rfl

/-- The session after a cache has been asked. -/
def asked (session : Session) (path : Path) (modified size : Nat) : Session :=
  { session with cache := (session.cache.get path modified size).2 }

/-- How a file is loaded that the cache does not serve. -/
def loadFresh (engine : Engine) (tree : FileTree) (path : Path) (modified size maxSize : Nat) :
    Work (Except FileFailure (AnalyzedFile × Bool)) :=
  match engine.analyzeFile tree path size maxSize with
  | .error failure => return .error failure
  | .ok file => do
    modify fun session =>
      { session with cache := session.cache.insert path modified size file }
    return .ok (file, false)

theorem loadKnown_eq (engine : Engine) (tree : FileTree) (path : Path)
    (modified size maxSize : Nat) (session : Session) :
    engine.loadKnown tree path modified size maxSize session =
      (match (session.cache.get path modified size).1 with
        | some file => return .ok (file, true)
        | none => engine.loadFresh tree path modified size maxSize : Work _)
        (asked session path modified size) := rfl

theorem loadFresh_eq (engine : Engine) (tree : FileTree) (path : Path)
    (modified size maxSize : Nat) (session : Session) :
    engine.loadFresh tree path modified size maxSize session =
      match engine.analyzeFile tree path size maxSize with
      | .error failure => (.error failure, session)
      | .ok file => (.ok (file, false),
          { session with cache := session.cache.insert path modified size file }) := by
  rw [loadFresh]
  cases engine.analyzeFile tree path size maxSize <;> rfl

theorem trusts_asked {session : Session} (htrusts : engine.Trusts memory session.cache) :
    engine.Trusts memory (asked session path modified size).cache :=
  fun entry hentry => htrusts entry (AnalysisCache.mem_of_mem_get hentry)

/-- With faithful entries a current file is loaded as if there were no cache, and the entries
stay faithful. -/
theorem loadKnown_spec (hcurrent : IsCurrent memory path modified size) {session : Session}
    (htrusts : engine.Trusts memory session.cache) :
    engine.Trusts memory
        (engine.loadKnown memory.tree path modified size maxSize session).2.cache
      ∧ (engine.loadKnown memory.tree path modified size maxSize session).2.scanned
        = session.scanned
      ∧ (size ≤ maxSize →
        (engine.loadKnown memory.tree path modified size maxSize session).1.map Prod.fst
          = engine.analyzeFile memory.tree path size maxSize) := by
  rw [loadKnown_eq]
  cases hhit : (session.cache.get path modified size).1 with
  | some served =>
    -- The entry served has the time of the file, and its plain path is the one asked for.
    refine ⟨trusts_asked htrusts, rfl, fun hsize => ?_⟩
    obtain ⟨entry, hentry, hpath, hmodified, -, rfl⟩ := AnalysisCache.exists_of_get hhit
    obtain ⟨file, hfile, htime, hanalyze⟩ :=
      @analyzeFile_eq engine memory path modified size maxSize hcurrent
    have hfaithful := htrusts entry hentry
    have hsame : entry.path = path := hfaithful.plain.eq_of_same hcurrent.plain hpath
    rw [hanalyze, if_neg (Nat.not_lt.mpr hsize), ← hsame]
    rw [← hsame] at hfile
    exact (hfaithful.analysis file hfile (htime.trans hmodified.symm)).symm
  | none =>
    simp only [loadFresh_eq]
    cases hanalyze : engine.analyzeFile memory.tree path size maxSize with
    | error failure => exact ⟨trusts_asked htrusts, rfl, fun _ => rfl⟩
    | ok analyzed =>
      -- What is recorded now is faithful, and so is what stays of the rest.
      refine ⟨fun entry hentry => ?_, rfl, fun _ => rfl⟩
      rcases AnalysisCache.mem_of_mem_insert hentry with rfl | hold
      · exact isFaithful_of_analyzeFile hcurrent hanalyze
      · exact trusts_asked htrusts entry hold

/-- A candidate is loaded and counted as if there were no cache. -/
theorem loadCandidate_spec {candidate : Candidate}
    (hcurrent : IsCurrent memory candidate.path candidate.modified candidate.size)
    (hsize : candidate.size ≤ maxSize) {session : Session}
    (htrusts : engine.Trusts memory session.cache) :
    let loaded := (engine.analyzeFile memory.tree candidate.path candidate.size maxSize).toOption
    let result := engine.loadCandidate memory.tree maxSize candidate session
    engine.Trusts memory result.2.cache ∧ result.1 = loaded
      ∧ result.2.scanned = session.scanned + loaded.toList.length := by
  obtain ⟨hkeeps, hscanned, hloaded⟩ :=
    @loadKnown_spec engine memory _ _ _ maxSize hcurrent session htrusts
  rw [← hloaded hsize]
  simp only [loadCandidate, work_bind]
  cases (engine.loadKnown memory.tree candidate.path candidate.modified candidate.size maxSize
    session).1 with
  | error failure => exact ⟨hkeeps, rfl, hscanned⟩
  | ok loaded => exact ⟨hkeeps, rfl, congrArg (· + 1) hscanned⟩

/-! ### Changes -/

/-- A faithful entry stays so when files are changed. -/
theorem IsFaithful.of_later {later : MemoryTree} {entry : CacheEntry}
    (h : engine.IsFaithful memory entry) (hlater : memory.IsLater later) :
    engine.IsFaithful later entry := by
  refine ⟨h.plain, Nat.le_trans h.past (timeOf_le hlater.clock_le), fun file hfile hmodified => ?_⟩
  obtain ⟨hmem, hpath⟩ := file?_eq_some_iff.mp hfile
  -- The entry is of the past, so a file that has its time is one that was there before.
  have hold : file ∈ memory.files := hlater.mem_of_le file hmem (hmodified ▸ h.past)
  exact h.analysis file (file?_eq_some_iff.mpr ⟨hold, hpath⟩) hmodified

end Engine

end SourceRetrieval
