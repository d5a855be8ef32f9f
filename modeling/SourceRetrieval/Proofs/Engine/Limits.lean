/-
The size limit and the cache.

A load has a limit to the size of its file, but it asks the cache first, and what
the cache serves is not measured.

* `loadPath_of_lt` — so a file that is too large is refused unless the cache serves it;
* `within_run` — whatever is done, each entry is of a size that some call allowed;
* `limit_enforced_unless_allowed` — after any run a file that is too large is refused
  unless the cache is on and an earlier call of the run allowed its size;
* `not_forall_limit_enforced` — and then it need not be refused.

Design notes: the calls of a run have limits of their own, so an entry may be of a
size that the call at hand does not allow.
-/
import SourceRetrieval.Proofs.Engine.Runs

namespace SourceRetrieval

open MemoryTree SourceRetrieval.Path

namespace AnalysisCache

/-- The cache has the capacity, and the sizes of its entries are allowed. -/
structure Within (capacity : Nat) (allowed : Nat → Prop) (cache : AnalysisCache) : Prop where
  capacity_eq : cache.capacity = capacity
  allowed_size : ∀ entry ∈ cache.entries, allowed entry.size

variable {cache : AnalysisCache} {path : Path} {modified size capacity : Nat}
  {allowed : Nat → Prop}

theorem Within.isEnabled_eq (h : cache.Within capacity allowed) :
    cache.isEnabled = (capacity != 0) := by
  rw [isEnabled, h.capacity_eq]

theorem Within.get (h : cache.Within capacity allowed) (path : Path) (modified size : Nat) :
    (cache.get path modified size).2.Within capacity allowed := by
  refine ⟨?_, fun entry hentry => h.allowed_size entry (mem_of_mem_get hentry)⟩
  rw [capacity_get]
  exact h.capacity_eq

theorem Within.insert (h : cache.Within capacity allowed) (path : Path) (modified : Nat)
    (file : AnalyzedFile) (hsize : allowed size) :
    (cache.insert path modified size file).Within capacity allowed := by
  refine ⟨h.capacity_eq, fun entry hentry => ?_⟩
  rcases mem_of_mem_insert hentry with rfl | hentry
  · exact hsize
  · exact h.allowed_size entry hentry

end AnalysisCache

open AnalysisCache

namespace Engine

variable {engine : Engine} {tree : FileTree} {path : Path} {modified size maxSize capacity : Nat}
  {allowed : Nat → Prop}

/-! ### One load -/

theorem size_le_of_analyzeFile {file : AnalyzedFile}
    (h : engine.analyzeFile tree path size maxSize = .ok file) : size ≤ maxSize := by
  rw [analyzeFile_eq_analysisOf] at h
  split at h
  · cases h
  · omega

theorem preserves_loadKnown_within (hallowed : ∀ size ≤ maxSize, allowed size) :
    Preserves (Within capacity allowed) (engine.loadKnown tree path modified size maxSize) := by
  intro session h
  have hasked : (asked session path modified size).cache.Within capacity allowed := h.get _ _ _
  rw [loadKnown_eq]
  cases (session.cache.get path modified size).1 with
  | some file => exact hasked
  | none =>
    simp only [loadFresh_eq]
    cases hanalyze : engine.analyzeFile tree path size maxSize with
    | error failure => exact hasked
    | ok file =>
      have hsize := size_le_of_analyzeFile hanalyze
      exact hasked.insert path modified file (hallowed size hsize)

/-- A file that is too large is refused, unless the cache serves it. -/
theorem loadPath_of_lt {known : FileStat} (hstat : tree.stat path = .ok known)
    (hdir : known.isDir = false) (hlarge : maxSize < known.size) (session : Session) :
    (engine.loadPath tree path maxSize session).1 =
      match (session.cache.get path known.modified known.size).1 with
      | some file => .ok (file, true)
      | none => .error (.tooLarge known.size maxSize) := by
  simp only [loadPath, hstat, hdir, loadKnown_eq, Bool.false_eq_true, if_false]
  cases (session.cache.get path known.modified known.size).1 with
  | some file => rfl
  | none => simp only [loadFresh_eq, analyzeFile_eq_analysisOf, if_pos hlarge]

/-- With the sizes of the entries known, a file that the cache serves is of such a size. -/
theorem refused_or_cached (hcache : engine.cache.Within capacity allowed) {known : FileStat}
    (hstat : tree.stat path = .ok known) (hdir : known.isDir = false)
    (hlarge : maxSize < known.size) :
    let loaded := (engine.loadPath tree path maxSize { cache := engine.cache }).1
    loaded = .error (.tooLarge known.size maxSize)
      ∨ engine.cache.isEnabled = true ∧ allowed known.size ∧ ∃ entry ∈ engine.cache.entries,
        entry.path.components = path.components ∧ entry.modified = known.modified
          ∧ entry.size = known.size ∧ loaded = .ok (entry.file, true) := by
  intro loaded
  have hloaded : loaded = _ := loadPath_of_lt hstat hdir hlarge { cache := engine.cache }
  cases hget : (engine.cache.get path known.modified known.size).1 with
  | none =>
    simp only [hget] at hloaded
    exact .inl hloaded
  | some file =>
    simp only [hget] at hloaded
    obtain ⟨entry, hentry, hpath, hmodified, hsize, rfl⟩ := exists_of_get hget
    refine .inr ⟨isEnabled_of_get hget, ?_, entry, hentry, hpath, hmodified, hsize, hloaded⟩
    rw [← hsize]
    exact hcache.allowed_size entry hentry

/-- What is loaded is a file. -/
theorem exists_stat_of_loadPath {session : Session} {loaded : AnalyzedFile × Bool}
    (h : (engine.loadPath tree path maxSize session).1 = .ok loaded) :
    ∃ known, tree.stat path = .ok known ∧ known.isDir = false := by
  rw [loadPath] at h
  cases hstat : tree.stat path with
  | error failure => rw [hstat] at h; cases h
  | ok known =>
    rw [hstat] at h
    cases hdir : known.isDir with
    | true => simp only [hdir, if_true] at h; cases h
    | false => exact ⟨known, rfl, hdir⟩

theorem exists_loaded_of_analyze {path : String} {analyzed : AnalyzedFile}
    (h : (engine.analyze tree path).1 = some analyzed) :
    ∃ loaded, (engine.loadPath tree (engine.root.resolveIn path)
      engine.config.walker.maxFileSize { cache := engine.cache }).1 = .ok loaded := by
  rw [analyze, fst_run, work_bind] at h
  cases hload : (engine.loadPath tree (engine.root.resolveIn path)
    engine.config.walker.maxFileSize { cache := engine.cache }).1 with
  | error failure => rw [hload] at h; cases h
  | ok loaded => exact ⟨loaded, rfl⟩

theorem findRelated_of_error {path : String} {options : SearchOptions} {failure : FileFailure}
    (h : (engine.loadPath tree (engine.root.resolveIn path)
      (options.resolve engine.config .keyword).maxFileSize { cache := engine.cache }).1
        = .error failure) :
    (engine.findRelated tree path options).1
      = .empty (.begin path .keyword (options.resolve engine.config .keyword)) := by
  simp only [findRelated]
  rw [fst_run, work_bind, h]
  rfl

/-! ### One call -/

section Calls

variable (hcache : engine.cache.Within capacity allowed)

include hcache

theorem within_search (query : String) (options : SearchOptions) (cancelled : Bool)
    (hallowed : ∀ size ≤ (SearchOptions.settleSize engine.config options.maxFileSize).1,
      allowed size) :
    (engine.search tree query options cancelled).2.cache.Within capacity allowed :=
  search_preserves query options cancelled (fun plan _ =>
    preserves_searchPlan plan _ cancelled fun _ _ =>
      preserves_loadCandidate (preserves_loadKnown_within hallowed)) hcache

theorem within_analyze (path : String)
    (hallowed : ∀ size ≤ engine.config.walker.maxFileSize, allowed size) :
    (engine.analyze tree path).2.cache.Within capacity allowed :=
  analyze_preserves path
    (preserves_loadPath fun _ _ _ => preserves_loadKnown_within hallowed) hcache

theorem within_findRelated (path : String) (options : SearchOptions)
    (hallowed : ∀ size ≤ (SearchOptions.settleSize engine.config options.maxFileSize).1,
      allowed size) :
    (engine.findRelated tree path options).2.cache.Within capacity allowed := by
  have hload : ∀ candidate : Candidate, Preserves (Within capacity allowed)
      (engine.loadCandidate tree (options.resolve engine.config .keyword).maxFileSize candidate) :=
    fun candidate => preserves_loadCandidate (preserves_loadKnown_within hallowed)
  refine findRelated_preserves path options ?_ (fun start target maxHops limit => ?_) hcache
  · exact preserves_loadPath fun _ _ _ => preserves_loadKnown_within hallowed
  · refine preserves_relatedFiles start target maxHops limit (fun file edge _ => ?_) fun c _ => ?_
    · exact preserves_loadTarget fun candidate _ => hload candidate
    · exact hload c

end Calls

end Engine

/-! ### Runs -/

/-- The most bytes of a file that a call loads, going by its own options. -/
def Action.limit? (config : Config) : Action → Option Nat
  | .search _ options _ | .searchMeaning _ options | .findUsages _ options
  | .findRelated _ options => some (SearchOptions.settleSize config options.maxFileSize).1
  | .analyze _ => some config.walker.maxFileSize
  | .add _ _ | .touch _ | .remove _ | .deny _ | .invalidate | .invalidatePath _ => none

/-- A call among the actions may load a file of the size. -/
def CallAllows (config : Config) (actions : List Action) (size : Nat) : Prop :=
  ∃ action ∈ actions, ∃ limit, action.limit? config = some limit ∧ size ≤ limit

/-- The cache is switched on, and a call among the actions may load a file of the size. -/
def Allows (config : Config) (actions : List Action) (size : Nat) : Prop :=
  (Engine.freshCache config).isEnabled = true ∧ CallAllows config actions size

namespace Workspace

open Engine

variable {workspace : Workspace} {capacity : Nat} {allowed : Nat → Prop}

theorem config_perform (workspace : Workspace) (action : Action) :
    (workspace.perform action).engine.config = workspace.engine.config := by
  have hsearch : ∀ query options cancelled,
      (workspace.engine.search workspace.memory.tree query options cancelled).2.config
        = workspace.engine.config := by
    intro query options cancelled
    rw [search]
    split <;> rfl
  cases action with
  | search query options cancelled => rw [perform, hsearch]
  | searchMeaning query options => rw [perform, searchMeaning, hsearch]
  | findUsages name options => rw [perform, findUsages, hsearch]
  | _ => rfl

theorem within_perform (hcache : workspace.engine.cache.Within capacity allowed) (action : Action)
    (hallowed : ∀ limit, action.limit? workspace.engine.config = some limit →
      ∀ size ≤ limit, allowed size) :
    (workspace.perform action).engine.cache.Within capacity allowed := by
  cases action with
  -- The searches differ in their options alone.
  | search query options cancelled =>
    simp only [perform]
    exact within_search hcache query options cancelled (hallowed _ rfl)
  | searchMeaning query options =>
    simp only [perform, searchMeaning]
    exact within_search hcache query _ false (hallowed _ rfl)
  | findUsages name options =>
    simp only [perform, findUsages]
    exact within_search hcache name _ false (hallowed _ rfl)
  | findRelated path options =>
    simp only [perform]
    exact within_findRelated hcache path options (hallowed _ rfl)
  | analyze path =>
    simp only [perform]
    exact within_analyze hcache path (hallowed _ rfl)
  | invalidate => exact ⟨hcache.capacity_eq, fun entry hentry => absurd hentry List.not_mem_nil⟩
  | invalidatePath path =>
    exact ⟨hcache.capacity_eq, fun entry hentry => hcache.allowed_size entry (mem_others hentry)⟩
  | add path content => exact hcache
  | touch path => exact hcache
  | remove path => exact hcache
  | deny path => exact hcache

/-- Whatever is done, the entries are of sizes that calls allowed. -/
theorem within_run (hcache : workspace.engine.cache.Within capacity allowed)
    {actions : List Action} (hallowed : ∀ action ∈ actions, ∀ limit,
      action.limit? workspace.engine.config = some limit → ∀ size ≤ limit, allowed size) :
    (workspace.run actions).engine.cache.Within capacity allowed
      ∧ (workspace.run actions).engine.config = workspace.engine.config := by
  induction actions generalizing workspace with
  | nil => exact ⟨hcache, rfl⟩
  | cons action actions ih =>
    have hnext := within_perform hcache action (hallowed action List.mem_cons_self)
    have hconfig := config_perform workspace action
    obtain ⟨hrest, hrestConfig⟩ := ih hnext (by
      rw [hconfig]
      exact fun other hother => hallowed other (List.mem_cons_of_mem _ hother))
    exact ⟨hrest, hrestConfig.trans hconfig⟩

end Workspace

namespace Engine

/-- After any run, a file that is too large is refused or served by the cache, and then an earlier
call of the run allowed its size.  So an analysis is of a file within the limit or of a size that
was allowed before, and nothing is related to a file above both. -/
theorem limit_enforced_unless_allowed (config : Config) (rules : RuleRegistry) (weights : Weights)
    (globs : GlobLibrary) (root : Path) (memory : MemoryTree) (actions : List Action) :
    let workspace := Workspace.run ⟨memory, start config rules weights globs root⟩ actions
    let engine := workspace.engine
    let tree := workspace.memory.tree
    (∀ path known, tree.stat path = .ok known → known.isDir = false → ∀ maxSize < known.size,
      let loaded := (engine.loadPath tree path maxSize { cache := engine.cache }).1
      loaded = .error (.tooLarge known.size maxSize)
        ∨ Allows config actions known.size ∧ ∃ entry ∈ engine.cache.entries,
          entry.path.components = path.components ∧ entry.modified = known.modified
            ∧ entry.size = known.size ∧ loaded = .ok (entry.file, true))
    ∧ (∀ path analyzed, (engine.analyze tree path).1 = some analyzed →
      ∃ known, tree.stat (engine.root.resolveIn path) = .ok known ∧ known.isDir = false
        ∧ (known.size ≤ config.walker.maxFileSize ∨ Allows config actions known.size))
    ∧ ∀ path options known, tree.stat (engine.root.resolveIn path) = .ok known →
      known.isDir = false → (SearchOptions.settleSize config options.maxFileSize).1 < known.size →
      ¬Allows config actions known.size →
      (engine.findRelated tree path options).1
        = .empty (.begin path .keyword (options.resolve config .keyword)) := by
  intro workspace engine tree
  have hrun : engine.cache.Within (freshCache config).capacity (CallAllows config actions)
      ∧ engine.config = config :=
    @Workspace.within_run ⟨memory, start config rules weights globs root⟩ _ _ ⟨rfl, by nofun⟩
      actions fun action hmem limit hlimit size hsize => ⟨action, hmem, limit, hlimit, hsize⟩
  obtain ⟨hwithin, hconfig⟩ := hrun
  have hrefused : ∀ path known, tree.stat path = .ok known → known.isDir = false →
      ∀ maxSize < known.size,
      let loaded := (engine.loadPath tree path maxSize { cache := engine.cache }).1
      loaded = .error (.tooLarge known.size maxSize)
        ∨ Allows config actions known.size ∧ ∃ entry ∈ engine.cache.entries,
          entry.path.components = path.components ∧ entry.modified = known.modified
            ∧ entry.size = known.size ∧ loaded = .ok (entry.file, true) := by
    intro path known hstat hdir maxSize hlarge loaded
    obtain hrefuse | ⟨henabled, hallowed, hentry⟩ :=
      refused_or_cached hwithin hstat hdir hlarge
    · exact .inl hrefuse
    · rw [hwithin.isEnabled_eq] at henabled
      exact .inr ⟨⟨henabled, hallowed⟩, hentry⟩
  refine ⟨hrefused, ?_, ?_⟩
  · intro path analyzed hanalyzed
    obtain ⟨loaded, hload⟩ := exists_loaded_of_analyze hanalyzed
    obtain ⟨known, hstat, hdir⟩ := exists_stat_of_loadPath hload
    refine ⟨known, hstat, hdir, ?_⟩
    by_cases hlarge : config.walker.maxFileSize < known.size
    · rw [hconfig] at hload
      obtain hrefuse | ⟨hallows, -⟩ := hrefused _ known hstat hdir _ hlarge
      · rw [hrefuse] at hload
        cases hload
      · exact .inr hallows
    · exact .inl (Nat.not_lt.mp hlarge)
  · intro path options known hstat hdir hlarge hnever
    have hlimit : (options.resolve engine.config .keyword).maxFileSize
        = (SearchOptions.settleSize config options.maxFileSize).1 := by
      rw [hconfig]
      rfl
    obtain hrefuse | ⟨hallows, -⟩ := hrefused _ known hstat hdir _ hlarge
    · rw [← hlimit] at hrefuse
      rw [findRelated_of_error hrefuse, hconfig]
    · exact absurd hallows hnever

/-- A configuration that allows files of ten bytes. -/
def tenBytes : Config := { walker := { maxFileSize := 10 } }

/-- A file of twenty-four bytes. -/
def alphaFile : MemoryTree := MemoryTree.add default ⟨"/ws/a.ts"⟩ "export const alpha = 1;\n".toUTF8

/-- To ask for what is related to the file with a limit of its own. -/
def askGenerously : Action := .findRelated "a.ts" { maxFileSize := some 1000 }

/-- The limit is not always enforced: a file that was loaded under a larger one is in the cache,
and is served from there. -/
theorem not_forall_limit_enforced :
    ¬∀ (config : Config) (rules : RuleRegistry) (weights : Weights) (globs : GlobLibrary)
      (root : Path)
      (memory : MemoryTree) (actions : List Action) (path : String),
      let workspace := Workspace.run ⟨memory, start config rules weights globs root⟩ actions
      ∀ known, workspace.memory.tree.stat (workspace.engine.root.resolveIn path) = .ok known →
        (workspace.engine.analyze workspace.memory.tree path).1.isSome = true →
        known.size ≤ config.walker.maxFileSize := by
  intro hall
  have hstat : alphaFile.tree.stat (Path.resolveIn (Path.normalize ⟨"/ws"⟩) "a.ts")
      = .ok ⟨24, timeOf 1, false⟩ := by rfl
  have hanalyzed : ((Workspace.run ⟨alphaFile, start tenBytes .empty {} .standard ⟨"/ws"⟩⟩
      [askGenerously]).engine.analyze alphaFile.tree "a.ts").1.isSome = true := by
    decide +kernel
  have hle : 24 ≤ tenBytes.walker.maxFileSize :=
    hall tenBytes .empty {} .standard ⟨"/ws"⟩ alphaFile [askGenerously] "a.ts" _ hstat hanalyzed
  exact absurd hle (by decide)

end Engine

end SourceRetrieval
