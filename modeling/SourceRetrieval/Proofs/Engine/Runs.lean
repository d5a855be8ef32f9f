/-
Runs of an engine on files that change.

A workspace is a tree in memory with an engine bound to it, and an action changes
files or calls the engine.

* `Engine.make_eq_ok_iff` — the engines that can be bound are those started;
* `Workspace.continues_run` — whatever is done, the cache stays faithful and the
  engine keeps its settings;
* `search_run_eq_uncached` — so after any run a query is answered as an engine
  without a cache answers it.

Design notes: a run begins with an engine that has been started, so with an empty
cache of any capacity.
-/
import SourceRetrieval.Proofs.Engine.Keeps

namespace SourceRetrieval

open MemoryTree SourceRetrieval.Path

/-- A configuration with its cache switched off. -/
def Config.withoutCache (config : Config) : Config :=
  { config with cache := { config.cache with enabled := false } }

namespace Engine

/-- The engine bound to a root, with nothing cached. -/
def start (config : Config) (rules : RuleRegistry) (weights : Weights) (globs : GlobLibrary)
    (root : Path) : Engine :=
  { root := root.normalize, config, rules, weights, globs, cache := freshCache config }

/-- To bind an engine is to start it at the root that is configured, if the settings make sense
and the root is a directory. -/
theorem make_eq_ok_iff {config : Config} {rules : RuleRegistry} {weights : Weights}
    {globs : GlobLibrary} {here : Path} {tree : FileTree} {engine : Engine} :
    make config rules weights globs here tree = .ok engine ↔
      config.problem? = none ∧ ∃ root, config.workspace.root = some root
        ∧ (∃ known, tree.stat (here.join root.text).normalize = .ok known ∧ known.isDir = true)
        ∧ engine = start config rules weights globs (here.join root.text) := by
  rw [make, Config.validate, rootOf]
  cases config.problem? with
  | some problem => simp [bind, Except.bind]
  | none =>
    cases config.workspace.root with
    | none => simp [bind, Except.bind]
    | some root =>
      simp only [bind, Except.bind, Option.some_inj, exists_eq_left', true_and]
      cases tree.stat (here.join root.text).normalize with
      | error failure => simp
      | ok known =>
        cases hdir : known.isDir with
        | false => simp [hdir]
        | true =>
          simp only [if_true, pure, Except.pure, Except.ok.injEq, exists_eq_left', hdir, true_and]
          exact eq_comm

end Engine

/-- A tree in memory and the engine that searches it. -/
structure Workspace where
  memory : MemoryTree
  engine : Engine

/-- Something that is done to the files or asked of the engine. -/
inductive Action where
  | add (path : Path) (content : ByteArray)
  | touch (path : Path)
  | remove (path : Path)
  | deny (path : Path)
  | search (query : String) (options : SearchOptions) (cancelled : Bool)
  | searchMeaning (query : String) (options : SearchOptions)
  | findUsages (name : String) (options : SearchOptions)
  | findRelated (path : String) (options : SearchOptions)
  | analyze (path : String)
  | invalidate
  | invalidatePath (path : String)

namespace Workspace

/-- The workspace after an action. -/
def perform (workspace : Workspace) : Action → Workspace
  | .add path content => { workspace with memory := workspace.memory.add path content }
  | .touch path => { workspace with memory := (workspace.memory.touch path).1 }
  | .remove path => { workspace with memory := (workspace.memory.remove path).1 }
  | .deny path => { workspace with memory := workspace.memory.deny path }
  | .search query options cancelled =>
    { workspace with
      engine := (workspace.engine.search workspace.memory.tree query options cancelled).2 }
  | .searchMeaning query options =>
    { workspace with
      engine := (workspace.engine.searchMeaning workspace.memory.tree query options).2 }
  | .findUsages name options =>
    { workspace with
      engine := (workspace.engine.findUsages workspace.memory.tree name options).2 }
  | .findRelated path options =>
    { workspace with
      engine := (workspace.engine.findRelated workspace.memory.tree path options).2 }
  | .analyze path =>
    { workspace with engine := (workspace.engine.analyze workspace.memory.tree path).2 }
  | .invalidate => { workspace with engine := workspace.engine.invalidate }
  | .invalidatePath path =>
    { workspace with engine := (workspace.engine.invalidatePath path).2 }

/-- A call leaves the files alone. -/
theorem memory_perform_findRelated (workspace : Workspace) (path : String)
    (options : SearchOptions) :
    (workspace.perform (.findRelated path options)).memory = workspace.memory := rfl

theorem engine_perform_findRelated (workspace : Workspace) (path : String)
    (options : SearchOptions) :
    (workspace.perform (.findRelated path options)).engine
      = (workspace.engine.findRelated workspace.memory.tree path options).2 := rfl

/-- The workspace after some actions, one after the other. -/
def run (workspace : Workspace) (actions : List Action) : Workspace :=
  actions.foldl perform workspace

/-- The engine has a plain root and a faithful cache. -/
structure IsSound (workspace : Workspace) : Prop where
  root_plain : workspace.engine.root.IsPlain
  trusts : workspace.engine.Trusts workspace.memory workspace.engine.cache

end Workspace

namespace Engine

variable {engine : Engine} {memory : MemoryTree}

/-- The engine with another cache. -/
def withCache (engine : Engine) (cache : AnalysisCache) : Engine := { engine with cache := cache }

theorem trusts_withCache {cache cache' : AnalysisCache} (h : engine.Trusts memory cache) :
    (engine.withCache cache').Trusts memory cache :=
  fun entry hentry => ⟨(h entry hentry).plain, (h entry hentry).past, (h entry hentry).analysis⟩

/-! ### What a call leaves in the cache -/

/-- A call leaves an engine with the same settings and a faithful cache. -/
structure Leaves (engine : Engine) (memory : MemoryTree) (after : Engine) : Prop where
  settings : after = engine.withCache after.cache
  trusts : engine.Trusts memory after.cache

theorem leaves_search (hroot : engine.root.IsPlain) (htrusts : engine.Trusts memory engine.cache)
    (query : String) (options : SearchOptions) (cancelled : Bool) :
    engine.Leaves memory (engine.search memory.tree query options cancelled).2 := by
  refine ⟨?_, search_preserves query options cancelled (fun plan kind _ htrusts =>
    trusts_searchPlan hroot plan _ cancelled htrusts) htrusts⟩
  rw [search]
  split <;> rfl

theorem leaves_analyze (htrusts : engine.Trusts memory engine.cache) (path : String) :
    engine.Leaves memory (engine.analyze memory.tree path).2 :=
  ⟨rfl, analyze_preserves path (keeps_loadPath (isPlain_resolveIn _ _) _) htrusts⟩

theorem leaves_findRelated (hroot : engine.root.IsPlain)
    (htrusts : engine.Trusts memory engine.cache) (path : String) (options : SearchOptions) :
    engine.Leaves memory (engine.findRelated memory.tree path options).2 := by
  have hwalker : (engine.walker (options.resolve engine.config .keyword)).root.IsPlain := hroot
  refine ⟨rfl, findRelated_preserves path options ?_ (keeps_relatedFiles hwalker) htrusts⟩
  exact keeps_loadPath (isPlain_resolveIn _ _) _

theorem Leaves.of_subset {after : Engine} (hsettings : after = engine.withCache after.cache)
    (hsubset : ∀ entry ∈ after.cache.entries, entry ∈ engine.cache.entries)
    (htrusts : engine.Trusts memory engine.cache) : engine.Leaves memory after :=
  ⟨hsettings, fun entry hentry => htrusts entry (hsubset entry hentry)⟩

end Engine

namespace Workspace

open Engine

variable {workspace : Workspace}

theorem isSound_of_leaves (hsound : workspace.IsSound) {after : Engine}
    (h : workspace.engine.Leaves workspace.memory after) :
    IsSound { workspace with engine := after } := by
  constructor
  · change after.root.IsPlain
    rw [h.settings]
    exact hsound.root_plain
  · change after.Trusts workspace.memory after.cache
    have htrusts := @trusts_withCache _ _ _ after.cache h.trusts
    rwa [← h.settings] at htrusts

theorem isSound_of_isLater (hsound : workspace.IsSound) {later : MemoryTree}
    (hlater : workspace.memory.IsLater later) : IsSound { workspace with memory := later } :=
  ⟨hsound.root_plain, fun entry hentry => (hsound.trusts entry hentry).of_later hlater⟩

/-- The workspace is sound, and its engine has the settings of another one. -/
def Continues (engine : Engine) (workspace : Workspace) : Prop :=
  workspace.IsSound ∧ workspace.engine = engine.withCache workspace.engine.cache

theorem continues_of_leaves (hsound : workspace.IsSound) {after : Engine}
    (h : workspace.engine.Leaves workspace.memory after) :
    Continues workspace.engine { workspace with engine := after } :=
  ⟨isSound_of_leaves hsound h, h.settings⟩

theorem continues_of_isLater (hsound : workspace.IsSound) {later : MemoryTree}
    (hlater : workspace.memory.IsLater later) :
    Continues workspace.engine { workspace with memory := later } :=
  ⟨isSound_of_isLater hsound hlater, rfl⟩

/-- What is done to a sound workspace keeps it sound, and the engine its settings. -/
theorem continues_perform (hsound : workspace.IsSound) (action : Action) :
    Continues workspace.engine (workspace.perform action) := by
  -- A change makes the tree a later one, a call leaves a faithful cache.
  cases action with
  | add path content => exact continues_of_isLater hsound (isLater_add _ _ _)
  | touch path => exact continues_of_isLater hsound (isLater_touch _ _)
  | remove path => exact continues_of_isLater hsound (isLater_remove _ _)
  | deny path => exact continues_of_isLater hsound (isLater_deny _ _)
  -- The searches differ in their options alone.
  | search query options cancelled =>
    rw [perform]
    exact continues_of_leaves hsound
      (leaves_search hsound.root_plain hsound.trusts query options cancelled)
  | searchMeaning query options =>
    rw [perform, searchMeaning]
    exact continues_of_leaves hsound (leaves_search hsound.root_plain hsound.trusts query _ false)
  | findUsages name options =>
    rw [perform, findUsages]
    exact continues_of_leaves hsound (leaves_search hsound.root_plain hsound.trusts name _ false)
  | findRelated path options =>
    rw [perform]
    exact continues_of_leaves hsound
      (leaves_findRelated hsound.root_plain hsound.trusts path options)
  | analyze path =>
    rw [perform]
    exact continues_of_leaves hsound (leaves_analyze hsound.trusts path)
  | invalidate =>
    rw [perform]
    exact continues_of_leaves hsound (.of_subset rfl (by nofun) hsound.trusts)
  | invalidatePath path =>
    rw [perform]
    exact continues_of_leaves hsound
      (.of_subset rfl (fun _ => AnalysisCache.mem_others) hsound.trusts)

/-- Whatever is done to a sound workspace, it stays sound and the engine keeps its settings. -/
theorem continues_run (hsound : workspace.IsSound) (actions : List Action) :
    Continues workspace.engine (workspace.run actions) := by
  induction actions generalizing workspace with
  | nil => exact ⟨hsound, rfl⟩
  | cons action actions ih =>
    obtain ⟨hnext, hsettings⟩ := continues_perform hsound action
    obtain ⟨hrest, hrest_settings⟩ := ih hnext
    refine ⟨hrest, ?_⟩
    change ((workspace.perform action).run actions).engine = _
    rw [hrest_settings, hsettings]
    rfl

/-- A workspace begins sound. -/
theorem isSound_start (config : Config) (rules : RuleRegistry) (weights : Weights)
    (globs : GlobLibrary) (root : Path) (memory : MemoryTree) :
    IsSound ⟨memory, Engine.start config rules weights globs root⟩ :=
  ⟨isPlain_normalize root, by nofun⟩

end Workspace

namespace Engine

/-! ### Answers -/

/-- The answer to a query when every file is analyzed anew. -/
def freshSearch (engine : Engine) (tree : FileTree) (query : String) (options : SearchOptions) :
    RetrievalContext :=
  let plan := QueryPlan.make query options.kind
  let resolved := options.resolve engine.config plan.kind
  if plan.isEmpty then .empty (.begin plan.query plan.kind resolved)
  else engine.freshAnswer tree plan resolved

/-- A query is answered as if every file were analyzed anew. -/
theorem search_timeless {engine : Engine} {memory : MemoryTree} (hroot : engine.root.IsPlain)
    (htrusts : engine.Trusts memory engine.cache) (query : String) (options : SearchOptions) :
    (engine.search memory.tree query options false).1.timeless
      = (engine.freshSearch memory.tree query options).timeless := by
  rw [search, freshSearch]
  split
  · rfl
  · exact searchPlan_timeless hroot _ _ rfl htrusts

/-- Answers are not about the cache: neither its entries nor whether there is one matter to what
an engine finds by analyzing every file anew. -/
theorem freshSearch_withCache (config : Config) (rules : RuleRegistry) (weights : Weights)
    (globs : GlobLibrary) (root : Path) (cache : AnalysisCache) (tree : FileTree) (query : String)
    (options : SearchOptions) :
    ((start config rules weights globs root).withCache cache).freshSearch tree query options
      = (start config.withoutCache rules weights globs root).freshSearch tree query options := rfl

/-- After any run of an engine on files that change, a query is answered as an engine whose
cache is switched off answers it on the files as they then stand, apart from what the answer
says of the cache and of time. -/
theorem search_run_eq_uncached (config : Config) (rules : RuleRegistry) (weights : Weights)
    (globs : GlobLibrary) (root : Path) (memory : MemoryTree) (actions : List Action)
    (query : String) (options : SearchOptions) :
    let workspace := Workspace.run ⟨memory, start config rules weights globs root⟩ actions
    let uncached := start config.withoutCache rules weights globs root
    let tree := workspace.memory.tree
    (workspace.engine.search tree query options false).1.timeless
        = (uncached.search tree query options false).1.timeless
      ∧ (workspace.engine.searchMeaning tree query options).1.timeless
        = (uncached.searchMeaning tree query options).1.timeless
      ∧ (workspace.engine.findUsages tree query options).1.timeless
        = (uncached.findUsages tree query options).1.timeless := by
  intro workspace uncached tree
  obtain ⟨hsound, hsettings⟩ := Workspace.continues_run
    (Workspace.isSound_start config rules weights globs root memory) actions
  have hsearch : ∀ options : SearchOptions,
      (workspace.engine.search tree query options false).1.timeless
        = (uncached.search tree query options false).1.timeless := by
    intro options
    -- Both engines answer as if every file were analyzed anew: the one because its cache is
    -- faithful, the other because its cache is empty.
    have hcached : (workspace.engine.search tree query options false).1.timeless
        = (workspace.engine.freshSearch tree query options).timeless :=
      search_timeless hsound.root_plain hsound.trusts query options
    have huncached : (uncached.search tree query options false).1.timeless
        = (uncached.freshSearch tree query options).timeless :=
      @search_timeless uncached workspace.memory (isPlain_normalize root) (by nofun) query options
    have hfresh : workspace.engine.freshSearch tree query options
        = uncached.freshSearch tree query options := by
      rw [show workspace.engine = _ from hsettings]
      exact freshSearch_withCache config rules weights globs root _ tree query options
    rw [hcached, huncached, hfresh]
  exact ⟨hsearch options, hsearch { options with kind := some .semantic },
    hsearch { options with kind := some .usage }⟩

end Engine

end SourceRetrieval
