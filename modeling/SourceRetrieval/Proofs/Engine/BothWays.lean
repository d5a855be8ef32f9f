/-
Imports and importers agree.

* `importOf?_eq_find?` — the edge to a file that is looked for specifier by specifier is the first
  one among all edges;
* `exists_loadPath_of_lists` — a file of the walk that can be loaded can be asked about;
* `importer_of_imported` — so a file that is imported directly finds its importer, if there is room
  for it.

Design notes: the one direction goes through what is admitted and the other through the walk.  The
importer need not be found as one, for the imports of the file may lead back to it.
-/
import SourceRetrieval.Proofs.Engine.Related

namespace SourceRetrieval

open MemoryTree SourceRetrieval.Path

/-! ### Edges -/

namespace ImportGraph

variable {graph : ImportGraph}

/-- No specifier names the file that it is written in. -/
def NamesOthers (graph : ImportGraph) : Prop :=
  ∀ importer specifier language, ∀ path ∈ graph.resolve importer specifier language,
    path.components ≠ importer.components

/-- The first specifier that names a target is that of the first pair with the target. -/
theorem find?_pairs (targets : String → List Path) (target : Path) (specs : List String) :
    specs.find? (fun spec => (targets spec).any (·.same target))
      = ((specs.flatMap fun spec => (targets spec).map (spec, ·)).find? (·.2.same target)).map
        (·.1) := by
  induction specs with
  | nil => rfl
  | cons spec specs ih =>
    have hany : (targets spec).any (·.same target)
        = ((targets spec).find? (·.same target)).isSome := by
      rw [Bool.eq_iff_iff, List.any_eq_true, List.find?_isSome]
    have hpairs : ((targets spec).map (spec, ·)).find? (·.2.same target)
        = ((targets spec).find? (·.same target)).map (spec, ·) := List.find?_map ..
    rw [List.find?_cons, hany, List.flatMap_cons, List.find?_append, hpairs, ih]
    cases (targets spec).find? (·.same target) <;> rfl

/-- The specifier of the edge to a file is that of the first one among all edges. -/
theorem importOf?_eq_find? (hothers : graph.NamesOthers) (file : AnalyzedFile) (target : Path) :
    graph.importOf? file target
      = ((graph.dependencies file).find? (·.2.same target)).map (·.1) := by
  rw [importOf?, dependencies, ← find?_pairs]
  split
  next hself =>
    -- No edge leads from a file to itself.
    refine (List.find?_eq_none.mpr fun spec _ hany => ?_).symm
    obtain ⟨path, hpath, hsame⟩ := List.any_eq_true.mp hany
    exact hothers _ _ _ path hpath ((same_iff.mp hsame).trans (same_iff.mp hself).symm)
  next => rfl

/-- The end of a chain of one edge is imported. -/
theorem Chain.imports {files : FileMap} {start file : AnalyzedFile}
    (h : Chain graph files start 1 file) : graph.Imports start file.path := by
  cases h with
  | @step _ _ _ edge hchain hedge hload _ =>
    obtain ⟨-, rfl⟩ | ⟨hpos, -⟩ := hchain.eq_start_or
    · exact ⟨edge, hedge, (files.path_eq hload).symm⟩
    · exact absurd hpos (Nat.lt_irrefl 0)

end ImportGraph

theorem Resolver.components_ne_of_mem_resolve {resolver : Resolver} {importer path : Path}
    {specifier : String} {language : Option Language}
    (h : path ∈ resolver.resolve importer specifier language) :
    path.components ≠ importer.components := by
  obtain ⟨found, -, hkept⟩ := @exists_names_resolve resolver importer specifier language
  have hother := (List.mem_filter.mp (hkept.subset h)).2
  intro hsame
  rw [same_iff.mpr hsame] at hother
  cases hother

namespace Engine

theorem namesOthers_importGraph (engine : Engine) (tree : FileTree) :
    (engine.importGraph tree).NamesOthers :=
  fun _ _ _ _ => Resolver.components_ne_of_mem_resolve

variable {engine : Engine} {memory : MemoryTree} {walker : Walker} {options : SearchOptions}

/-! ### Calls about files of the walk -/

/-- The analysis of a file that a walk yields and that can be loaded. -/
def Lists (engine : Engine) (tree : FileTree) (walker : Walker) (file : AnalyzedFile) : Prop :=
  ∃ c ∈ walker.walk tree, engine.loaded? tree walker.maxFileSize c = some file

/-- Whoever asks for the file gets its analysis. -/
theorem exists_loadPath_of_lists (hroot : walker.root.IsPlain) {file : AnalyzedFile}
    (h : engine.Lists memory.tree walker file) {session : Session}
    (htrusts : engine.Trusts memory session.cache) :
    ∃ cached, (engine.loadPath memory.tree file.path walker.maxFileSize session).1
      = .ok (file, cached) := by
  obtain ⟨c, hc, hloaded⟩ := h
  have hloadable := isLoadable_of_mem_walk hroot hc
  obtain ⟨steps, -, -, -, hfilter⟩ := Walker.mem_walk_iff.mp hc
  rw [← (Walker.holds_of_filter? hfilter).1] at hfilter
  obtain ⟨-, known, hknown, hdir, -, hcandidate⟩ := Walker.filter?_eq_some_iff.mp hfilter
  have hsize : c.size = known.size := congrArg Candidate.size hcandidate
  have hmodified : c.modified = known.modified := congrArg Candidate.modified hcandidate
  have hspec := (loadKnown_spec hloadable.current htrusts).2.2 hloadable.size_le
  rw [hsize, hmodified] at hspec
  rw [path_of_loaded? hloaded]
  rw [loaded?, hsize] at hloaded
  have hstat : memory.tree.stat c.path = .ok known := by
    cases hstat : memory.tree.stat c.path with
    | error failure =>
      rw [hstat] at hknown
      cases hknown
    | ok found =>
      rw [hstat] at hknown
      rw [Option.some_inj.mp hknown]
  simp only [loadPath, hstat, hdir, Bool.false_eq_true, if_false]
  -- With or without a cache, what is loaded is what the analysis gives.
  cases hresult : (engine.loadKnown memory.tree c.path known.modified known.size
    walker.maxFileSize session).1 with
  | error failure =>
    rw [hresult] at hspec
    rw [← hspec] at hloaded
    cases hloaded
  | ok loaded =>
    rw [hresult] at hspec
    rw [← hspec] at hloaded
    exact ⟨loaded.2, by rw [← Option.some_inj.mp hloaded]⟩

/-- A call about a path of the file begins with its analysis. -/
theorem exists_loadPath_resolveIn (hroot : engine.root.IsPlain)
    (htrusts : engine.Trusts memory engine.cache) {file : AnalyzedFile}
    (h : engine.Lists memory.tree (engine.walker (options.resolve engine.config .keyword)) file)
    {path : String} (hpath : (engine.root.resolveIn path).components = file.path.components) :
    ∃ cached, (engine.loadPath memory.tree (engine.root.resolveIn path)
      (options.resolve engine.config .keyword).maxFileSize { cache := engine.cache }).1
        = .ok (file, cached) := by
  have hwalker : (engine.walker (options.resolve engine.config .keyword)).root.IsPlain := hroot
  have hplain : file.path.IsPlain := by
    obtain ⟨c, hc, hloaded⟩ := h
    rw [path_of_loaded? hloaded]
    exact (isLoadable_of_mem_walk hwalker hc).current.plain
  rw [(isPlain_resolveIn _ _).eq_of_same hplain hpath]
  exact exists_loadPath_of_lists hwalker h htrusts

section Answers

variable (hroot : engine.root.IsPlain) (htrusts : engine.Trusts memory engine.cache)
  {path : String} {origin file : AnalyzedFile} {cached : Bool}
  (hload : (engine.loadPath memory.tree (engine.root.resolveIn path)
    (options.resolve engine.config .keyword).maxFileSize { cache := engine.cache }).1
      = .ok (origin, cached))

include hroot htrusts hload

/-- A file that is shown as imported directly is. -/
theorem imports_of_mem_findRelated
    (hfile : file ∈ (engine.findRelated memory.tree path options).1.files)
    (hscore : totalKey file.relevance = totalKey 100) :
    origin.path.components ≠ file.path.components
      ∧ (engine.importGraph memory.tree).Imports origin file.path := by
  obtain ⟨related, hrelated, rfl⟩ := List.mem_map.mp
    ((perm_findRelated hroot htrusts hload).mem_iff.mp hfile)
  obtain ⟨hdirection, hhops⟩ := RelatedFile.totalKey_score_eq_hundred_iff.mp hscore
  have hdiscovered := List.mem_of_mem_take hrelated
  refine ⟨(discovered_cases hdiscovered).1.symm, ?_⟩
  rcases mem_discovered.mp hdiscovered with himported | himporter
  · have hbreadth := isBreadthFirst_imported engine memory
      (engine.walker (options.resolve engine.config .keyword)) origin
      (options.resolve engine.config .keyword).maxHops
    have hchain := hbreadth.chain _ himported
    rw [Nat.le_antisymm hhops (hbreadth.hops_pos _ himported)] at hchain
    exact hchain.imports
  · rw [(mem_importers_iff.mp himporter).2.2.2.1] at hdirection
    cases hdirection

/-- If there is room for every file, a file of the walk that imports the one asked about is
shown. -/
theorem exists_mem_findRelated_importer
    (hroom : memory.files.length
      ≤ relatedLimit engine.config options (options.resolve engine.config .keyword))
    (h : engine.Lists memory.tree (engine.walker (options.resolve engine.config .keyword)) file)
    (hother : file.path.components ≠ origin.path.components)
    (himports : (engine.importGraph memory.tree).Imports file origin.path) :
    ∃ shown ∈ (engine.findRelated memory.tree path options).1.files,
      shown.path.components = file.path.components := by
  obtain ⟨c, hc, hloaded⟩ := h
  obtain ⟨related, hrelated, hsame⟩ := exists_mem_discovered_of_imports hc hloaded hother himports
  exact ⟨_, toFile_mem_findRelated hroot htrusts hload hroom hrelated, hsame⟩

end Answers

/-- If there is room for every file, a call about a file that is imported directly shows its
importer, whatever is cached. -/
theorem exists_mem_findRelated_of_imported (hroot : engine.root.IsPlain)
    (htrusts : engine.Trusts memory engine.cache) {cache : AnalysisCache}
    (hcache : (engine.withCache cache).Trusts memory cache)
    (hroom : memory.files.length
      ≤ relatedLimit engine.config options (options.resolve engine.config .keyword))
    {importer imported shown : AnalyzedFile} {path other : String}
    (himporter : engine.Lists memory.tree
      (engine.walker (options.resolve engine.config .keyword)) importer)
    (hpath : (engine.root.resolveIn path).components = importer.path.components)
    (himported : engine.Lists memory.tree
      (engine.walker (options.resolve engine.config .keyword)) imported)
    (hother : (engine.root.resolveIn other).components = imported.path.components)
    (hshown : shown ∈ (engine.findRelated memory.tree path options).1.files)
    (hsame : shown.path.components = imported.path.components)
    (hscore : totalKey shown.relevance = totalKey 100) :
    ∃ file ∈ ((engine.withCache cache).findRelated memory.tree other options).1.files,
      file.path.components = importer.path.components := by
  obtain ⟨cached, hload⟩ := exists_loadPath_resolveIn hroot htrusts himporter hpath
  obtain ⟨hapart, edge, hedge, htarget⟩ :=
    imports_of_mem_findRelated hroot htrusts hload hshown hscore
  -- Neither the walk nor the imports depend on the cache.
  have hroot' : (engine.withCache cache).root.IsPlain := hroot
  obtain ⟨cached', hload'⟩ :=
    @exists_loadPath_resolveIn (engine.withCache cache) memory options hroot' hcache imported
      himported other hother
  exact exists_mem_findRelated_importer hroot' hcache hload' hroom himporter (hsame ▸ hapart)
    ⟨edge, hedge, htarget.trans hsame⟩

/-- Where no specifier names the file that it is written in, the edge to a file that is looked for
specifier by specifier is the first one among all edges; and so it is in every workspace.  After any
run, let a call about a file of the walk show another one as imported directly.  Then the same call
about the other one, at once or later, shows the first, if the files are still the same and there is
room for more of them than there are. -/
theorem importer_of_imported (config : Config) (rules : RuleRegistry) (weights : Weights)
    (globs : GlobLibrary) (root : Path) (memory : MemoryTree) (actions more : List Action)
    (options : SearchOptions) :
    let workspace := Workspace.run ⟨memory, start config rules weights globs root⟩ actions
    let later := workspace.run more
    let engine := workspace.engine
    let tree := workspace.memory.tree
    let resolved := options.resolve engine.config .keyword
    let walker := engine.walker resolved
    (∀ graph : ImportGraph, graph.NamesOthers → ∀ file target, graph.importOf? file target
        = ((graph.dependencies file).find? (·.2.same target)).map (·.1))
      ∧ (engine.importGraph tree).NamesOthers
      ∧ (later.memory = workspace.memory →
        workspace.memory.files.length < relatedLimit engine.config options resolved →
        ∀ importer, engine.Lists tree walker importer →
        ∀ imported, engine.Lists tree walker imported →
        ∀ path, (engine.root.resolveIn path).components = importer.path.components →
        ∀ other, (engine.root.resolveIn other).components = imported.path.components →
        ∀ shown ∈ (engine.findRelated tree path options).1.files,
          shown.path.components = imported.path.components →
          totalKey shown.relevance = totalKey 100 →
          ∃ file ∈ (later.engine.findRelated later.memory.tree other options).1.files,
            file.path.components = importer.path.components) := by
  intro workspace later engine tree resolved walker
  obtain ⟨hsound, -⟩ := Workspace.continues_run
    (Workspace.isSound_start config rules weights globs root memory) actions
  obtain ⟨hlater, hsettings⟩ := Workspace.continues_run hsound more
  have hengine : later.engine = engine.withCache later.engine.cache := hsettings
  refine ⟨fun graph hothers => graph.importOf?_eq_find? hothers,
    namesOthers_importGraph engine tree, ?_⟩
  intro hmemory hroom importer himporter imported himported path hpath other hother shown hshown
    hsame hscore
  have hcache : later.engine.Trusts later.memory later.engine.cache := hlater.trusts
  rw [hmemory, hengine] at hcache
  rw [hmemory, hengine]
  exact exists_mem_findRelated_of_imported hsound.root_plain hsound.trusts hcache
    (Nat.le_of_lt hroom) himporter hpath himported hother hshown hsame hscore

/-- To ask for five files of any kind. -/
def askFive : SearchOptions := { askTwo with maxFiles := some 5 }

/-- A file of the row is listed. -/
theorem exists_lists_row (path : Path) (name : String) (hplain : path.IsPlain)
    (hpath : path.components = openEngine.root.components ++ [.normal name])
    (hopen : (openEngine.walker (askFive.resolve openEngine.config .keyword)).Open row.tree
      openEngine.root [] [.normal name])
    (hdeepest : ∀ other ∈ row.files.map (·.path),
      other.components.length ≤ path.components.length)
    (hfound : (((openEngine.walker (askFive.resolve openEngine.config .keyword)).filter? row.tree
      path).bind (openEngine.loaded? row.tree
        (askFive.resolve openEngine.config .keyword).maxFileSize)).isSome = true) :
    ∃ file, openEngine.Lists row.tree
        (openEngine.walker (askFive.resolve openEngine.config .keyword)) file
      ∧ file.path = path := by
  obtain ⟨file, hfile⟩ := Option.isSome_iff_exists.mp hfound
  obtain ⟨c, hfilter, hloaded⟩ := Option.bind_eq_some_iff.mp hfile
  have hwalked := mem_walk_of_filter? [.normal name] (isPlain_normalize ⟨"/w"⟩) hplain hpath hopen
    hdeepest hfilter
  refine ⟨file, ⟨c, hwalked, hloaded⟩, ?_⟩
  rw [path_of_loaded? hloaded, (Walker.holds_of_filter? hfilter).1]

/-- A call about the first file of the row shows the second as imported directly. -/
theorem exists_mem_findRelated_row :
    ∃ shown ∈ (openEngine.findRelated row.tree "a.py" askFive).1.files,
      shown.path = ⟨"/w/b.py"⟩ ∧ totalKey shown.relevance = totalKey 100 := by
  obtain ⟨hroot, htrusts⟩ : Workspace.IsSound ⟨row, openEngine⟩ :=
    Workspace.isSound_start openConfig .builtin {} .standard ⟨"/w"⟩ row
  let resolved := askFive.resolve openEngine.config .keyword
  let shows := fun related : RelatedFile => (related.file.path.text, totalKey related.score)
  obtain ⟨origin, cached, hload, himported⟩ : ∃ origin cached,
      (openEngine.loadPath row.tree (openEngine.root.resolveIn "a.py") resolved.maxFileSize
        { cache := openEngine.cache }).1 = .ok (origin, cached)
      ∧ (openEngine.imported row (openEngine.walker resolved) origin resolved.maxHops).map shows
        = [("/w/b.py", totalKey 100), ("/w/c.py", totalKey 60)] :=
    exists_origin_of_map (by decide +kernel)
  have hfirst : ("/w/b.py", totalKey 100) ∈ (openEngine.imported row (openEngine.walker resolved)
      origin resolved.maxHops).map shows := by
    rw [himported]
    exact List.mem_cons_self
  obtain ⟨related, hrelated, hshows⟩ := List.mem_map.mp hfirst
  obtain ⟨hpath, hscore⟩ := Prod.mk.inj hshows
  exact ⟨_, toFile_mem_findRelated hroot htrusts hload (by decide)
    (mem_discovered.mpr (.inl hrelated)), congrArg Path.mk hpath, hscore⟩

/-- Asked about the first file of the row and then about the second, the engine shows each with the
other. -/
theorem importer_of_imported_row :
    (openEngine.importGraph row.tree).NamesOthers
      ∧ (∀ file target, (openEngine.importGraph row.tree).importOf? file target
        = (((openEngine.importGraph row.tree).dependencies file).find? (·.2.same target)).map (·.1))
      ∧ (∃ shown ∈ (openEngine.findRelated row.tree "a.py" askFive).1.files,
        shown.path = ⟨"/w/b.py"⟩ ∧ totalKey shown.relevance = totalKey 100)
      ∧ ∃ file ∈ ((openEngine.findRelated row.tree "a.py" askFive).2.findRelated row.tree "b.py"
          askFive).1.files,
        file.path.components = (⟨"/w/a.py"⟩ : Path).components := by
  obtain ⟨hfirst, hothers, hback⟩ := importer_of_imported openConfig .builtin {} .standard ⟨"/w"⟩
    row [] [.findRelated "a.py" askFive] askFive
  have hengine : start openConfig .builtin {} .standard ⟨"/w"⟩ = openEngine := rfl
  simp only [Workspace.run, List.foldl_nil, List.foldl_cons, hengine] at hothers hback
  rw [Workspace.memory_perform_findRelated, Workspace.engine_perform_findRelated] at hback
  obtain ⟨importer, himporter, hpath⟩ := exists_lists_row ⟨"/w/a.py"⟩ "a.py"
    (isPlain_normalize ⟨"/w/a.py"⟩) (by decide) (by decide) (by decide)
    (by decide +kernel)
  obtain ⟨imported, himported, hother⟩ := exists_lists_row ⟨"/w/b.py"⟩ "b.py"
    (isPlain_normalize ⟨"/w/b.py"⟩) (by decide) (by decide) (by decide)
    (by decide +kernel)
  obtain ⟨shown, hshown, hsame, hscore⟩ := exists_mem_findRelated_row
  refine ⟨hothers, hfirst _ hothers, ⟨shown, hshown, hsame, hscore⟩, ?_⟩
  rw [← hpath]
  refine hback rfl (by decide) importer himporter imported himported "a.py" ?_ "b.py" ?_
    shown hshown ?_ hscore
  · rw [hpath]
    decide
  · rw [hother]
    decide
  · rw [hsame, hother]

end Engine

end SourceRetrieval
