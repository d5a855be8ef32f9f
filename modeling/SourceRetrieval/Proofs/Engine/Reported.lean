/-
What is reported can be asked for again.

* `isPlaced_of_reports` — a file in an answer is one of the workspace, shown as seen from
  the root;
* `designates_of_resolveIn` — a text that is read as a path leads every call to it;
* `reported_leads_back` — after any run the relative path of a reported file leads back to
  it, if its path is normal.

Design notes: a tree in memory may hold a file under a path that is not normal, and a walk
shows the path as it is.  What a caller gives is brought into its normal form, though, so
such a file cannot be asked for.
-/
import SourceRetrieval.Proofs.Engine.Limits
import SourceRetrieval.Proofs.Engine.Related
import SourceRetrieval.Proofs.Path.Relative

namespace SourceRetrieval

open MemoryTree SourceRetrieval.Path

/-- The answer as that to another query. -/
def RetrievalContext.withQuery (context : RetrievalContext) (query : String) : RetrievalContext :=
  { context with metadata := { context.metadata with query := query } }

namespace Engine

variable {engine : Engine} {memory : MemoryTree} {tree : FileTree} {file : AnalyzedFile}
  {walker : Walker} {maxSize : Nat} {candidate : Candidate} {text : String} {path : Path}

/-! ### Files in answers -/

/-- A file of the workspace, shown as seen from the root. -/
structure IsPlaced (engine : Engine) (memory : MemoryTree) (file : AnalyzedFile) : Prop where
  relative : file.relativePath = engine.root.relativeTo file.path
  under : file.path.isUnder engine.root = true
  plain : file.path.IsPlain
  stored : memory.Holds file.path.components

theorem relativePath_of_analysisOf {bytes : ByteArray}
    (h : engine.analysisOf path bytes = .ok file) :
    file.relativePath = engine.root.relativeTo path := by
  obtain ⟨content, rfl⟩ := exists_make_of_analysisOf h
  rfl

theorem isPlaced_of_loaded? (hloadable : IsLoadable memory maxSize candidate)
    (hunder : candidate.path.isUnder engine.root = true)
    (h : engine.loaded? memory.tree maxSize candidate = some file) :
    engine.IsPlaced memory file := by
  obtain ⟨stored, hstored, hanalysis⟩ := analysisOf_of_loaded? hloadable h
  have hpath := path_of_analysisOf hanalysis
  refine ⟨hpath ▸ relativePath_of_analysisOf hanalysis, hpath ▸ hunder,
    hpath ▸ hloadable.current.plain, ?_⟩
  rw [hpath, ← isSome_file?_iff, hstored]
  rfl

theorem isPlaced_of_mem_walk (hroot : engine.root.IsPlain) {options : ResolvedOptions}
    (hc : candidate ∈ (engine.walker options).walk memory.tree)
    (h : engine.loaded? memory.tree options.maxFileSize candidate = some file) :
    engine.IsPlaced memory file := by
  obtain ⟨steps, -, -, hleaf, hfilter⟩ := Walker.mem_walk_iff.mp hc
  have hcomponents := Walker.components_of_filter? hleaf hfilter
  have hload := @isLoadable_of_mem_walk memory (engine.walker options) candidate hroot hc
  exact isPlaced_of_loaded? hload (isUnder_iff.mpr ⟨steps, hcomponents⟩) h

theorem isPlaced_of_imported {origin : AnalyzedFile} {maxHops : Nat} {related : RelatedFile}
    (h : related ∈ engine.imported memory walker origin maxHops) :
    engine.IsPlaced memory related.file := by
  have hbreadth := isBreadthFirst_imported engine memory walker origin maxHops
  have hother := hbreadth.other related h
  have hchain := hbreadth.chain related h
  generalize related.hops = hops, related.file = found at hother hchain ⊢
  cases hchain with
  | start => exact absurd rfl hother
  | @step _ _ _ edge _ hedge hload _ =>
    obtain ⟨spec, -, htargets⟩ := List.mem_flatMap.mp hedge
    obtain ⟨target, htarget, rfl⟩ := List.mem_map.mp htargets
    have hplain := Resolver.isPlain_of_mem_resolve htarget
    obtain ⟨rest, hrest⟩ := ((Resolver.isContained_resolve _ _ _).inside target htarget).under
    rw [admitted_at? hplain] at hload
    obtain ⟨candidate, hcandidate, hloaded⟩ := Option.bind_eq_some_iff.mp hload
    refine isPlaced_of_loaded? (isLoadable_of_admit? hplain hcandidate) ?_ hloaded
    rw [path_of_admit? hcandidate]
    exact isUnder_iff.mpr ⟨rest, hrest.symm⟩

section Answers

variable (hroot : engine.root.IsPlain) (htrusts : engine.Trusts memory engine.cache)
  {options : SearchOptions}

include hroot htrusts

theorem isPlaced_of_mem_search {query : String} {cancelled : Bool}
    (h : file ∈ (engine.search memory.tree query options cancelled).1.files) :
    engine.IsPlaced memory file := by
  let plan := QueryPlan.make query options.kind
  let resolved := options.resolve engine.config plan.kind
  rw [search] at h
  split at h
  · exact absurd h List.not_mem_nil
  · rw [fst_run, searchPlan_eq] at h
    obtain ⟨hit, hhit, rfl⟩ := List.mem_map.mp h
    have hhits := (@collectHits_spec engine memory plan resolved _
      (isLoadable_of_mem_walk_of_options hroot resolved cancelled) { cache := engine.cache }
      htrusts).2.1
    rw [hhits] at hhit
    have hmem := (List.mergeSort_perm _ _).mem_iff.mp (List.mem_of_mem_take hhit)
    obtain ⟨loaded, hloaded, hscored⟩ := List.mem_filterMap.mp hmem
    obtain ⟨c, hc, hloaded⟩ := List.mem_filterMap.mp hloaded
    have hplaced : engine.IsPlaced memory hit.file := by
      rw [file_of_hit? hscored]
      split at hc
      · exact absurd hc List.not_mem_nil
      · exact isPlaced_of_mem_walk hroot hc hloaded
    exact ⟨hplaced.relative, hplaced.under, hplaced.plain, hplaced.stored⟩

theorem isPlaced_of_mem_findRelated
    (h : file ∈ (engine.findRelated memory.tree text options).1.files) :
    engine.IsPlaced memory file := by
  let resolved := options.resolve engine.config .keyword
  cases hload : (engine.loadPath memory.tree (engine.root.resolveIn text) resolved.maxFileSize
    { cache := engine.cache }).1 with
  | error failure =>
    rw [findRelated_of_error hload] at h
    exact absurd h List.not_mem_nil
  | ok loaded =>
    obtain ⟨origin, cached⟩ := loaded
    have hmem := (perm_findRelated hroot htrusts hload).mem_iff.mp h
    obtain ⟨related, hrelated, rfl⟩ := List.mem_map.mp hmem
    have hplaced : engine.IsPlaced memory related.file := by
      rcases mem_discovered.mp (List.mem_of_mem_take hrelated) with himported | himporter
      · exact isPlaced_of_imported himported
      · obtain ⟨⟨c, hc, hloaded⟩, -⟩ := mem_importers_iff.mp himporter
        exact isPlaced_of_mem_walk hroot hc hloaded
    exact ⟨hplaced.relative, hplaced.under, hplaced.plain, hplaced.stored⟩

/-- If some file imports the one asked about, the answer is not empty, and is about other files. -/
theorem exists_mem_findRelated_of_imports {origin importer : AnalyzedFile} {cached : Bool}
    (hload : (engine.loadPath memory.tree (engine.root.resolveIn text)
      (options.resolve engine.config .keyword).maxFileSize { cache := engine.cache }).1
        = .ok (origin, cached))
    (hlimit : 0 < relatedLimit engine.config options (options.resolve engine.config .keyword))
    (hc : candidate ∈ (engine.walker (options.resolve engine.config .keyword)).walk memory.tree)
    (hloaded : engine.loaded? memory.tree (options.resolve engine.config .keyword).maxFileSize
      candidate = some importer)
    (hother : importer.path.components ≠ origin.path.components)
    (himports : (engine.importGraph memory.tree).Imports importer origin.path) :
    ∃ file ∈ (engine.findRelated memory.tree text options).1.files,
      file.path.components ≠ origin.path.components := by
  let resolved := options.resolve engine.config .keyword
  obtain ⟨related, hrelated, -⟩ := @exists_mem_discovered_of_imports _ _
    (engine.walker resolved) origin resolved.maxHops candidate hc importer hloaded hother himports
  obtain ⟨first, rest, hfirst⟩ := List.exists_cons_of_ne_nil (List.ne_nil_of_mem hrelated)
  refine ⟨first.toFile resolved.contextWindow, ?_,
    (discovered_cases (hfirst ▸ List.mem_cons_self)).1⟩
  refine (perm_findRelated hroot htrusts hload).mem_iff.mpr (List.mem_map_of_mem ?_)
  rw [hfirst, List.take_cons hlimit]
  exact List.mem_cons_self

end Answers

theorem path_of_analyze (htrusts : engine.Trusts memory engine.cache)
    (h : (engine.analyze memory.tree text).1 = some file) :
    file.path = engine.root.resolveIn text
      ∧ file.relativePath = engine.root.relativeTo file.path := by
  rw [analyze, fst_run, work_bind] at h
  cases hload : (engine.loadPath memory.tree (engine.root.resolveIn text)
    engine.config.walker.maxFileSize { cache := engine.cache }).1 with
  | error failure =>
    simp only [hload] at h
    cases h
  | ok loaded =>
    obtain ⟨found, cached⟩ := loaded
    obtain ⟨stored, -, hanalysis⟩ :=
      analysisOf_of_loadPath (isPlain_resolveIn _ _) htrusts hload
    simp only [hload] at h
    cases h
    have hpath := path_of_analysisOf hanalysis
    refine ⟨hpath, ?_⟩
    have hrelative := relativePath_of_analysisOf hanalysis
    rw [← hpath] at hrelative
    exact hrelative

/-! ### What a text leads to -/

theorem begin_withLanguages (query other : String) (kind : SearchKind) (options : ResolvedOptions)
    (files : List AnalyzedFile) :
    (SearchMetadata.begin query kind options).withLanguages files
      = { (SearchMetadata.begin other kind options).withLanguages files with query := query } := by
  cases hnone : options.includeLanguages.isEmpty <;>
    simp only [SearchMetadata.withLanguages, SearchMetadata.begin, hnone, Bool.false_eq_true,
      if_true, if_false]

/-- Of a text only the path it is read as matters to what is related; the answer repeats it. -/
theorem findRelated_congr {other : String}
    (h : engine.root.resolveIn text = engine.root.resolveIn other) (options : SearchOptions) :
    engine.findRelated tree text options
      = ((engine.findRelated tree other options).1.withQuery text,
        (engine.findRelated tree other options).2) := by
  let resolved := options.resolve engine.config .keyword
  rw [findRelated, findRelated, h]
  simp only [run, StateT.run, work_bind]
  generalize engine.loadPath tree (engine.root.resolveIn other) resolved.maxFileSize
    { cache := engine.cache } = after
  obtain ⟨loaded, session⟩ := after
  cases loaded with
  | error failure => rfl
  | ok loaded =>
    simp only [work_bind, begin_withLanguages text other]
    rfl

/-- A text leads every call that takes a path to this one, just as its own text does. -/
structure Designates (engine : Engine) (memory : MemoryTree) (text : String) (path : Path) :
    Prop where
  resolve : engine.root.resolveIn text = path
  analyze : engine.analyze memory.tree text = engine.analyze memory.tree path.text
  analyzed : ∀ file, (engine.analyze memory.tree text).1 = some file → file.path = path
  findRelated : ∀ options, engine.findRelated memory.tree text options
    = ((engine.findRelated memory.tree path.text options).1.withQuery text,
      (engine.findRelated memory.tree path.text options).2)
  invalidatePath : engine.invalidatePath text = engine.invalidatePath path.text

theorem designates_of_resolveIn (htrusts : engine.Trusts memory engine.cache)
    (habsolute : engine.root.isAbsolute = true) (hnormal : path.normalize = path)
    (h : engine.root.resolveIn text = path) : engine.Designates memory text path := by
  have hself : engine.root.resolveIn path.text = path :=
    resolveIn_text (h ▸ isAbsolute_resolveIn habsolute text) hnormal
  have hsame : engine.root.resolveIn text = engine.root.resolveIn path.text := h.trans hself.symm
  refine ⟨h, ?_, fun file hfile => (path_of_analyze htrusts hfile).1.trans h,
    findRelated_congr hsame, ?_⟩
  · rw [analyze, analyze, hsame]
  · rw [invalidatePath, invalidatePath, hsame]

end Engine

/-! ### After a run -/

namespace Workspace

/-- A file is in some answer that the engine gives on the files as they stand. -/
inductive Reports (workspace : Workspace) (file : AnalyzedFile) : Prop where
  | search (query : String) (options : SearchOptions) (cancelled : Bool)
    (h : file ∈ (workspace.engine.search workspace.memory.tree query options cancelled).1.files)
  | searchMeaning (query : String) (options : SearchOptions)
    (h : file ∈ (workspace.engine.searchMeaning workspace.memory.tree query options).1.files)
  | findUsages (name : String) (options : SearchOptions)
    (h : file ∈ (workspace.engine.findUsages workspace.memory.tree name options).1.files)
  | findRelated (text : String) (options : SearchOptions)
    (h : file ∈ (workspace.engine.findRelated workspace.memory.tree text options).1.files)

theorem isPlaced_of_reports {workspace : Workspace} {file : AnalyzedFile}
    (hsound : workspace.IsSound) (h : workspace.Reports file) :
    workspace.engine.IsPlaced workspace.memory file := by
  have hsearch {query : String} {options : SearchOptions} {cancelled : Bool} :=
    @Engine.isPlaced_of_mem_search workspace.engine workspace.memory file hsound.root_plain
      hsound.trusts options query cancelled
  cases h with
  | search query options cancelled h => exact hsearch h
  | searchMeaning query options h =>
    rw [Engine.searchMeaning] at h
    exact hsearch h
  | findUsages name options h =>
    rw [Engine.findUsages] at h
    exact hsearch h
  | findRelated text options h =>
    exact Engine.isPlaced_of_mem_findRelated hsound.root_plain hsound.trusts h

end Workspace

namespace Engine

/-- Let the root be absolute and normal.  A normal path under it is what its relative path is read
as, so different ones have different relative paths.  After any run a file in an answer is shown
as seen from the root and is one of those stored, at the same path if that is normal; and if its
path is normal, its relative path leads every call to it.  So does the relative path of a file
that is analyzed, if it is under the root or no backslash is in its path. -/
theorem reported_leads_back (config : Config) (rules : RuleRegistry) (weights : Weights)
    (globs : GlobLibrary) (root : Path) (memory : MemoryTree) (actions : List Action)
    (habsolute : root.isAbsolute = true) (hnormal : root.normalize = root) :
    let workspace := Workspace.run ⟨memory, start config rules weights globs root⟩ actions
    let engine := workspace.engine
    (∀ p : Path, p.normalize = p → p.isUnder root = true → root.resolveIn (root.relativeTo p) = p)
    ∧ (∀ p q : Path, p.normalize = p → p.isUnder root = true → q.normalize = q →
      q.isUnder root = true → root.relativeTo p = root.relativeTo q → p = q)
    ∧ (∀ file, workspace.Reports file →
      file.relativePath = root.relativeTo file.path ∧ file.path.isUnder root = true
      ∧ (∃ stored ∈ workspace.memory.files, stored.path.components = file.path.components
        ∧ (stored.path.normalize = stored.path → stored.path = file.path))
      ∧ (file.path.normalize = file.path →
        engine.Designates workspace.memory file.relativePath file.path))
    ∧ ∀ text file, (engine.analyze workspace.memory.tree text).1 = some file →
      file.relativePath = root.relativeTo file.path ∧ file.path.normalize = file.path
      ∧ (file.path.isUnder root = true ∨ '\\' ∉ file.path.text.toList →
        engine.Designates workspace.memory file.relativePath file.path) := by
  intro workspace engine
  obtain ⟨hsound, hsettings⟩ := Workspace.continues_run
    (Workspace.isSound_start config rules weights globs root memory) actions
  have hroot : engine.root = root := by
    rw [show engine = _ from hsettings]
    exact hnormal
  have habsolute' : engine.root.isAbsolute = true := hroot ▸ habsolute
  have hunder {p : Path} (hp : p.normalize = p) (h : p.isUnder root = true) :
      root.resolveIn (root.relativeTo p) = p := (resolveIn_relativeTo habsolute h).trans hp
  have hleads {file : AnalyzedFile} (hrelative : file.relativePath = root.relativeTo file.path)
      (hfile : file.path.normalize = file.path)
      (h : root.resolveIn (root.relativeTo file.path) = file.path) :
      engine.Designates workspace.memory file.relativePath file.path := by
    refine designates_of_resolveIn hsound.trusts habsolute' hfile ?_
    rw [hroot, hrelative, h]
  refine ⟨fun p => hunder, fun p q hp hpunder hq hqunder =>
    eq_of_relativeTo_eq habsolute hpunder hqunder hp hq, fun file hfile => ?_, ?_⟩
  · obtain ⟨hrelative, hinside, hplain, stored, hstored, hsame⟩ :=
      Workspace.isPlaced_of_reports hsound hfile
    rw [hroot] at hrelative hinside
    refine ⟨hrelative, hinside, ⟨stored, hstored, hsame, fun h => ?_⟩, fun h =>
      hleads hrelative h (hunder h hinside)⟩
    exact (h ▸ isPlain_normalize stored.path : stored.path.IsPlain).eq_of_same hplain hsame
  · intro text file hfile
    obtain ⟨hpath, hrelative⟩ := path_of_analyze hsound.trusts hfile
    rw [hroot] at hpath hrelative
    have hself : file.path.normalize = file.path := by rw [hpath, normalize_resolveIn]
    refine ⟨hrelative, hself, fun h => hleads hrelative hself ?_⟩
    by_cases hinside : file.path.isUnder root = true
    · exact hunder hself hinside
    · have hslash := h.resolve_left hinside
      have habs : file.path.isAbsolute = true := hpath ▸ isAbsolute_resolveIn habsolute text
      exact (resolveIn_relativeTo_of_not_under habs hinside hslash).trans hself

/-- The file at the end of the row leads back to itself. -/
theorem reported_leads_back_row :
    (⟨"/w"⟩ : Path).isAbsolute = true ∧ (⟨"/w"⟩ : Path).normalize = ⟨"/w"⟩
      ∧ (⟨"/w"⟩ : Path).resolveIn ((⟨"/w"⟩ : Path).relativeTo ⟨"/w/d.py"⟩) = ⟨"/w/d.py"⟩
      ∧ ∃ file, (openEngine.analyze row.tree "d.py").1 = some file
        ∧ openEngine.Designates row file.relativePath file.path := by
  have habsolute : (⟨"/w"⟩ : Path).isAbsolute = true := by decide
  have hnormal : (⟨"/w"⟩ : Path).normalize = ⟨"/w"⟩ := by decide
  obtain ⟨hback, -, -, hanalyzed⟩ :=
    reported_leads_back openConfig .builtin {} .standard ⟨"/w"⟩ row [] habsolute hnormal
  have hsome : (openEngine.analyze row.tree "d.py").1.isSome = true := by decide +kernel
  obtain ⟨file, hfile⟩ := Option.isSome_iff_exists.mp hsome
  obtain ⟨-, -, hleads⟩ := hanalyzed "d.py" file hfile
  refine ⟨habsolute, hnormal, hback ⟨"/w/d.py"⟩ (by decide) (by decide), file,
    hfile, hleads (.inl ?_)⟩
  rw [(path_of_analyze (by nofun) hfile).1]
  decide

/-- A tree with a file that is not at a normal path. -/
def detour : MemoryTree :=
  ((default : MemoryTree).add ⟨"/w/a.py"⟩ "".toUTF8).add ⟨"/w/b/../d.py"⟩ "import a".toUTF8

theorem exists_importer_detour :
    ∃ c ∈ (openEngine.walker (askTwo.resolve openEngine.config .keyword)).walk detour.tree, ∃ file,
      openEngine.loaded? detour.tree (askTwo.resolve openEngine.config .keyword).maxFileSize c
          = some file
        ∧ file.path = ⟨"/w/b/../d.py"⟩
        ∧ (openEngine.importGraph detour.tree).Imports file ⟨"/w/a.py"⟩ :=
  exists_importer [.normal "b", .parent, .normal "d.py"] (isPlain_normalize ⟨"/w"⟩)
    (by decide) (by decide) (by decide) (by decide)
    (by decide +kernel)

/-- The path is shown as it is. -/
theorem exists_mem_findRelated_detour :
    ∃ file ∈ (openEngine.findRelated detour.tree "a.py" askTwo).1.files,
      file.path = ⟨"/w/b/../d.py"⟩ := by
  let resolved := askTwo.resolve openEngine.config .keyword
  have hroot : openEngine.root.IsPlain := isPlain_normalize ⟨"/w"⟩
  have htrusts : openEngine.Trusts detour openEngine.cache := by nofun
  obtain ⟨origin, cached, hload⟩ : ∃ origin cached, (openEngine.loadPath detour.tree
      (openEngine.root.resolveIn "a.py") resolved.maxFileSize { cache := openEngine.cache }).1
        = .ok (origin, cached) :=
    exists_origin_of_isOk (by decide +kernel)
  have horigin : origin.path = ⟨"/w/a.py"⟩ :=
    (isAnalysisAt_of_loadPath htrusts hload).path_eq.trans (by decide)
  obtain ⟨c, hc, importer, hloaded, hpath, himports⟩ := exists_importer_detour
  rw [← horigin] at himports
  have hother : importer.path.components ≠ origin.path.components := by
    rw [hpath, horigin]
    decide
  obtain ⟨file, hfile, hdistinct⟩ := exists_mem_findRelated_of_imports hroot htrusts hload
    (by decide) hc hloaded hother himports
  -- There is no other file that could be shown.
  have hfiles : ∀ file ∈ detour.files, file.path.components = (⟨"/w/a.py"⟩ : Path).components
      ∨ file.path.components = (⟨"/w/b/../d.py"⟩ : Path).components := by
    decide
  obtain ⟨-, -, hplain, stored, hstored, hsame⟩ := isPlaced_of_mem_findRelated hroot htrusts hfile
  rw [horigin] at hdistinct
  have hcase := (hfiles stored hstored).resolve_left fun h => hdistinct (hsame.symm.trans h)
  exact ⟨file, hfile, hplain.eq_of_same (by decide) (hsame.symm.trans hcase)⟩

/-- A tree with a file outside the root that has a backslash in its path. -/
def outside : MemoryTree := (default : MemoryTree).add ⟨"/v/x\\y.py"⟩ "".toUTF8

/-- Under the built-in rules what is reported is not always what its relative path is read as. -/
theorem not_forall_reported_leads_back :
    ¬(∀ (config : Config) (rules : RuleRegistry) (weights : Weights) (globs : GlobLibrary)
        (root : Path) (memory : MemoryTree),
      RuleRegistry.builtin? = some rules → root.isAbsolute = true → root.normalize = root →
      ∀ file, (Workspace.mk memory (start config rules weights globs root)).Reports file →
        (root.resolveIn file.relativePath).components = file.path.components)
    ∧ ¬(∀ (config : Config) (rules : RuleRegistry) (weights : Weights) (globs : GlobLibrary)
        (root : Path) (memory : MemoryTree),
      RuleRegistry.builtin? = some rules → root.isAbsolute = true → root.normalize = root →
      ∀ text file,
        ((start config rules weights globs root).analyze memory.tree text).1 = some file →
        (root.resolveIn file.relativePath).components = file.path.components) := by
  have habsolute : (⟨"/w"⟩ : Path).isAbsolute = true := by decide
  have hnormal : (⟨"/w"⟩ : Path).normalize = ⟨"/w"⟩ := by decide
  refine ⟨fun h => ?_, fun h => ?_⟩
  · obtain ⟨file, hfile, hpath⟩ := exists_mem_findRelated_detour
    have hplaced := isPlaced_of_mem_findRelated (isPlain_normalize ⟨"/w"⟩) (by nofun) hfile
    have hsame := h openConfig .builtin {} .standard ⟨"/w"⟩ detour RuleRegistry.builtin?_eq
      habsolute hnormal file (.findRelated "a.py" askTwo hfile)
    rw [hplaced.relative, hpath] at hsame
    exact absurd hsame (by decide)
  · have hsome : (openEngine.analyze outside.tree "/v/x\\y.py").1.isSome = true := by
      decide +kernel
    obtain ⟨file, hfile⟩ := Option.isSome_iff_exists.mp hsome
    obtain ⟨hpath, hrelative⟩ := path_of_analyze (by nofun) hfile
    have hsame := h openConfig .builtin {} .standard ⟨"/w"⟩ outside RuleRegistry.builtin?_eq
      habsolute hnormal _ file hfile
    rw [hrelative, hpath] at hsame
    exact absurd hsame (by decide +kernel)

end Engine

end SourceRetrieval
