/-
The answer about related files.

* `files_findRelated` — an answer holds the first ones of the files discovered, in
  order;
* `findRelated_assembled` — so each file once and none without reason, and all of them
  unless the answer is full;
* `findRelated_cap` — how many files are asked for decides where the discovery stops,
  and nothing else;
* `not_forall_cap_keeps_best` — which is not always behind the best ones.

Design notes: files that imports lead to are discovered before importers, however
far away they are.  So what is left out scores higher than what is kept if it is an
importer and the other is two imports away or more.
-/
import SourceRetrieval.Proofs.Engine.Discovery
import SourceRetrieval.Proofs.Engine.Runs
import SourceRetrieval.Proofs.Outline.Builtin

namespace SourceRetrieval

open MemoryTree SourceRetrieval.Path

namespace RelatedFile

/-! ### Scores -/

theorem score_of_importedBy {related : RelatedFile} (h : related.direction = .importedBy) :
    related.score = 80 := by
  rw [score, h]

/-- The score of a file that imports lead to is that of its distance. -/
theorem score_of_imports {related : RelatedFile} (h : related.direction = .imports)
    (hpos : 1 ≤ related.hops) :
    related.score = if related.hops = 1 then 100 else if related.hops = 2 then 60 else 20 := by
  obtain ⟨file, hops, via, direction⟩ := related
  obtain rfl : direction = .imports := h
  match hops, hpos with
  | 1, _ => rfl
  | 2, _ => rfl
  | n + 3, _ => rfl

theorem totalKey_scores :
    totalKey 20 < totalKey 60 ∧ totalKey 60 < totalKey 80 ∧ totalKey 80 < totalKey 100 := by
  decide

/-- The score of importers is that of no other file. -/
theorem totalKey_score_eq_eighty_iff {related : RelatedFile} :
    totalKey related.score = totalKey 80 ↔ related.direction = .importedBy := by
  obtain ⟨hfar, hsecond, hfirst⟩ := totalKey_scores
  refine ⟨fun h => ?_, fun h => congrArg totalKey (score_of_importedBy h)⟩
  obtain ⟨file, hops, via, direction⟩ := related
  cases direction with
  | importedBy => rfl
  | imports =>
    match hops with
    | 0 | 1 => exact absurd h hfirst.ne'
    | 2 => exact absurd h hsecond.ne
    | n + 3 => exact absurd h (hfar.trans hsecond).ne

/-- The score of the files that are imported directly is that of no other file. -/
theorem totalKey_score_eq_hundred_iff {related : RelatedFile} :
    totalKey related.score = totalKey 100 ↔ related.direction = .imports ∧ related.hops ≤ 1 := by
  obtain ⟨hfar, hsecond, hfirst⟩ := totalKey_scores
  obtain ⟨file, hops, via, direction⟩ := related
  cases direction with
  | importedBy => exact iff_of_false hfirst.ne nofun
  | imports =>
    match hops with
    | 0 => exact iff_of_true rfl ⟨rfl, Nat.zero_le 1⟩
    | 1 => exact iff_of_true rfl ⟨rfl, Nat.le_refl 1⟩
    | 2 => exact iff_of_false (hsecond.trans hfirst).ne (by simp)
    | n + 3 => exact iff_of_false (hfar.trans (hsecond.trans hfirst)).ne (by simp)

theorem totalKey_le_of_hops_le {a b : RelatedFile} (ha : a.direction = .imports)
    (hb : b.direction = .imports) (hpos : 1 ≤ a.hops) (hle : a.hops ≤ b.hops) :
    totalKey b.score ≤ totalKey a.score := by
  have hkeys := totalKey_scores
  rw [score_of_imports ha hpos, score_of_imports hb (Nat.le_trans hpos hle)]
  split_ifs <;> omega

end RelatedFile

namespace Engine

variable {engine : Engine} {memory : MemoryTree} {walker : Walker} {origin : AnalyzedFile}
  {maxHops : Nat}

/-- Of two files discovered the later one scores higher only if it is an importer and the other is
two imports away or more. -/
theorem pairwise_score_discovered :
    (engine.discovered memory walker origin maxHops).Pairwise fun a b =>
        totalKey a.score < totalKey b.score →
          a ∈ engine.imported memory walker origin maxHops ∧ 2 ≤ a.hops
            ∧ b ∈ engine.importers memory walker origin maxHops := by
  have hbreadth := isBreadthFirst_imported engine memory walker origin maxHops
  have himporter : ∀ b ∈ engine.importers memory walker origin maxHops,
      b.direction = .importedBy := fun b hb => (mem_importers_iff.mp hb).2.2.2.1
  refine List.pairwise_append.mpr ⟨?_, ?_, ?_⟩
  · refine hbreadth.sorted.imp_of_mem fun ha hb hle hlt => absurd hlt (Int.not_lt.mpr ?_)
    exact RelatedFile.totalKey_le_of_hops_le (hbreadth.direction _ ha) (hbreadth.direction _ hb)
      (hbreadth.hops_pos _ ha) hle
  · refine List.pairwise_of_forall_mem_list fun a ha b hb hlt => absurd hlt ?_
    rw [RelatedFile.score_of_importedBy (himporter a ha),
      RelatedFile.score_of_importedBy (himporter b hb)]
    exact Int.lt_irrefl _
  · intro a ha b hb hlt
    have hpos := hbreadth.hops_pos a ha
    refine ⟨ha, ?_, hb⟩
    -- A file that is imported directly scores higher than any importer.
    by_contra hnear
    rw [RelatedFile.score_of_imports (hbreadth.direction a ha) hpos, if_pos (by omega),
      RelatedFile.score_of_importedBy (himporter b hb)] at hlt
    exact absurd hlt RelatedFile.totalKey_scores.2.2.asymm

/-! ### Answers -/

section Answers

variable (hroot : engine.root.IsPlain) (htrusts : engine.Trusts memory engine.cache)
  {path : String} {options : SearchOptions} {cached : Bool}
  (hload : (engine.loadPath memory.tree (engine.root.resolveIn path)
    (options.resolve engine.config .keyword).maxFileSize { cache := engine.cache }).1
      = .ok (origin, cached))

include htrusts hload

theorem isAnalysisAt_of_loadPath :
    engine.IsAnalysisAt memory (engine.root.resolveIn path) origin :=
  ⟨isPlain_resolveIn _ _, analysisOf_of_loadPath (isPlain_resolveIn _ _) htrusts hload⟩

include hroot

/-- An answer holds the first ones of the files discovered, in order. -/
theorem files_findRelated :
    let resolved := options.resolve engine.config .keyword
    let discovered := engine.discovered memory (engine.walker resolved) origin resolved.maxHops
    (engine.findRelated memory.tree path options).1.files
      = (((discovered.take (relatedLimit engine.config options resolved)).map
        (·.toFile resolved.contextWindow)).mergeSort fun a b => rankRelated a b != .gt) := by
  intro resolved discovered
  rw [(findRelated_of_loadPath hroot htrusts hload).1, ← relatedTo_eq_take,
    (isAnalysisAt_of_loadPath htrusts hload).path_eq]

theorem perm_findRelated :
    let resolved := options.resolve engine.config .keyword
    let discovered := engine.discovered memory (engine.walker resolved) origin resolved.maxHops
    (engine.findRelated memory.tree path options).1.files.Perm
      ((discovered.take (relatedLimit engine.config options resolved)).map
        (·.toFile resolved.contextWindow)) := by
  intro resolved discovered
  rw [files_findRelated hroot htrusts hload]
  exact List.mergeSort_perm _ _

/-- If there is room for every file of the tree, nothing discovered is left out. -/
theorem toFile_mem_findRelated {related : RelatedFile}
    (hroom : memory.files.length
      ≤ relatedLimit engine.config options (options.resolve engine.config .keyword))
    (h : related ∈ engine.discovered memory
      (engine.walker (options.resolve engine.config .keyword)) origin
      (options.resolve engine.config .keyword).maxHops) :
    related.toFile (options.resolve engine.config .keyword).contextWindow
      ∈ (engine.findRelated memory.tree path options).1.files := by
  refine (perm_findRelated hroot htrusts hload).mem_iff.mpr (List.mem_map_of_mem ?_)
  rwa [List.take_of_length_le (Nat.le_trans length_discovered_le hroom)]

/-- The files of an answer have different paths, and each stands before those that follow. -/
theorem ordered_findRelated :
    ((engine.findRelated memory.tree path options).1.files.map (·.path.components)).Nodup
      ∧ (engine.findRelated memory.tree path options).1.files.Pairwise RelatedBefore := by
  have hnodup : ∀ walker maxHops limit, (((engine.discovered memory walker origin maxHops).take
      limit).map fun related => related.file.path.components).Nodup :=
    fun _ _ _ => nodup_discovered.sublist ((List.take_sublist _ _).map _)
  refine ⟨?_, ?_⟩
  · rw [((perm_findRelated hroot htrusts hload).map _).nodup_iff, List.map_map]
    exact hnodup _ _ _
  · rw [files_findRelated hroot htrusts hload]
    refine pairwise_relatedBefore ?_
    rw [List.map_map]
    exact hnodup _ _ _

end Answers

/-- After any run, the answer about a file that can be loaded holds at most as many files as are
asked for, each once, the file itself not among them, in the order of their scores, relative paths
and paths.  Each is admitted, and few enough imports through admitted files lead to it or one of
its own names the file.  If there is room left, every file of either kind is there. -/
theorem findRelated_assembled (config : Config) (rules : RuleRegistry) (weights : Weights)
    (globs : GlobLibrary) (root : Path) (memory : MemoryTree) (actions : List Action)
    (path : String) (options : SearchOptions) (origin : AnalyzedFile) (cached : Bool) :
    let workspace := Workspace.run ⟨memory, start config rules weights globs root⟩ actions
    let engine := workspace.engine
    let tree := workspace.memory.tree
    let resolved := options.resolve engine.config .keyword
    let walker := engine.walker resolved
    let graph := engine.importGraph tree
    let files := engine.admitted tree walker
    let target := engine.root.resolveIn path
    let limit := relatedLimit engine.config options resolved
    let answer := (engine.findRelated tree path options).1
    (engine.loadPath tree target resolved.maxFileSize { cache := engine.cache }).1
        = .ok (origin, cached) →
      (answer.files.map (·.path.components)).Nodup
      ∧ (∀ file ∈ answer.files, file.path.components ≠ target.components)
      ∧ answer.files.length ≤ limit
      ∧ answer.files.Pairwise RelatedBefore
      ∧ (∀ file ∈ answer.files, (walker.admit? tree file.path).isSome = true)
      ∧ (∀ file ∈ answer.files,
        (∃ n ≤ resolved.maxHops, ∃ loaded, graph.Walk files origin n loaded
          ∧ loaded.path = file.path) ∨ graph.Imports file target)
      ∧ (answer.files.length < limit →
        (∀ n ≤ resolved.maxHops, ∀ loaded, graph.Walk files origin n loaded →
          loaded.path.components ≠ target.components →
          ∃ file ∈ answer.files, file.path.components = loaded.path.components)
        ∧ ∀ c ∈ walker.walk tree, ∀ loaded, engine.loaded? tree walker.maxFileSize c = some loaded →
          loaded.path.components ≠ target.components → graph.Imports loaded target →
          ∃ file ∈ answer.files, file.path.components = loaded.path.components) := by
  intro workspace engine tree resolved walker graph files target limit answer hload
  obtain ⟨hsound, -⟩ := Workspace.continues_run
    (Workspace.isSound_start config rules weights globs root memory) actions
  have horigin : engine.IsAnalysisAt workspace.memory target origin :=
    isAnalysisAt_of_loadPath hsound.trusts hload
  have htarget : origin.path = target := horigin.path_eq
  let all := engine.discovered workspace.memory walker origin resolved.maxHops
  have hperm : answer.files.Perm ((all.take limit).map (·.toFile resolved.contextWindow)) :=
    perm_findRelated hsound.root_plain hsound.trusts hload
  obtain ⟨hdistinct, hordered⟩ := ordered_findRelated hsound.root_plain hsound.trusts hload
  have hlength : answer.files.length = min limit all.length := by
    rw [hperm.length_eq, List.length_map, List.length_take]
  -- What holds of the files discovered holds of those in the answer.
  have hfound : ∀ file ∈ answer.files, ∃ related ∈ all,
      file = related.toFile resolved.contextWindow := by
    intro file hfile
    obtain ⟨related, hrelated, rfl⟩ := List.mem_map.mp (hperm.mem_iff.mp hfile)
    exact ⟨related, List.mem_of_mem_take hrelated, rfl⟩
  have hshown : answer.files.length < limit → ∀ related ∈ all,
      related.toFile resolved.contextWindow ∈ answer.files := by
    intro hroom related hrelated
    rw [hlength] at hroom
    rw [hperm.mem_iff, List.take_of_length_le (by omega)]
    exact List.mem_map_of_mem hrelated
  refine ⟨hdistinct, ?_, by omega, hordered, ?_, ?_, fun hroom => ⟨?_, ?_⟩⟩
  · intro file hfile
    obtain ⟨related, hrelated, rfl⟩ := hfound file hfile
    rw [← htarget]
    exact (discovered_cases hrelated).1
  · intro file hfile
    obtain ⟨related, hrelated, rfl⟩ := hfound file hfile
    exact (discovered_cases hrelated).2.1
  · intro file hfile
    obtain ⟨related, hrelated, rfl⟩ := hfound file hfile
    obtain ⟨hhops, hwalk⟩ | himports := (discovered_cases hrelated).2.2
    · exact .inl ⟨related.hops, hhops, related.file, hwalk, rfl⟩
    · exact .inr (htarget ▸ himports)
  · intro n hn loaded hwalk hother
    rw [← htarget] at hother
    obtain ⟨related, hrelated, rfl⟩ := exists_mem_imported horigin hn hwalk hother
    exact ⟨_, hshown hroom related (mem_discovered.mpr (.inl hrelated)), rfl⟩
  · intro c hc loaded hloaded hother himports
    rw [← htarget] at hother himports
    obtain ⟨related, hrelated, hsame⟩ :=
      exists_mem_discovered_of_imports hc hloaded hother himports
    exact ⟨_, hshown hroom related hrelated, hsame⟩

/-- Files in a row, each importing the next, and one that imports the first. -/
def row : MemoryTree :=
  ((((default : MemoryTree).add ⟨"/w/a.py"⟩ "import b".toUTF8).add ⟨"/w/b.py"⟩
    "import c".toUTF8).add ⟨"/w/c.py"⟩ "".toUTF8).add ⟨"/w/d.py"⟩ "import a".toUTF8

/-- A configuration that excludes nothing. -/
def openConfig : Config := { walker := { excludePatterns := [] } }

/-- To ask for two files of any kind. -/
def askTwo : SearchOptions := { maxFiles := some 2, includeTests := true, includeDocs := true }

/-- An engine with that configuration and the built-in rules. -/
def openEngine : Engine := start openConfig .builtin {} .standard ⟨"/w"⟩

theorem exists_origin_of_isOk {loaded : Except FileFailure (AnalyzedFile × Bool)}
    (h : loaded.isOk = true) : ∃ origin cached, loaded = .ok (origin, cached) := by
  cases loaded with
  | error failure => cases h
  | ok loaded => exact ⟨loaded.1, loaded.2, rfl⟩

theorem exists_origin_of_map {α : Type} {loaded : Except FileFailure (AnalyzedFile × Bool)}
    {f : AnalyzedFile → α} {value : α} (h : loaded.toOption.map (f ·.1) = some value) :
    ∃ origin cached, loaded = .ok (origin, cached) ∧ f origin = value := by
  cases loaded with
  | error failure => cases h
  | ok loaded => exact ⟨loaded.1, loaded.2, rfl, Option.some_inj.mp h⟩

/-- The first file of the row can be loaded. -/
theorem exists_loadPath_row :
    ∃ origin cached, (openEngine.loadPath row.tree (openEngine.root.resolveIn "a.py")
      (askTwo.resolve openEngine.config .keyword).maxFileSize { cache := openEngine.cache }).1
        = .ok (origin, cached) :=
  exists_origin_of_isOk (by decide +kernel)

/-- Of the row two files are shown, each once and not the first. -/
theorem findRelated_assembled_row :
    ∃ origin cached, (openEngine.loadPath row.tree (openEngine.root.resolveIn "a.py")
        (askTwo.resolve openEngine.config .keyword).maxFileSize { cache := openEngine.cache }).1
          = .ok (origin, cached)
      ∧ ((openEngine.findRelated row.tree "a.py" askTwo).1.files.map (·.path.components)).Nodup
      ∧ (∀ file ∈ (openEngine.findRelated row.tree "a.py" askTwo).1.files,
        file.path.components ≠ (openEngine.root.resolveIn "a.py").components)
      ∧ (openEngine.findRelated row.tree "a.py" askTwo).1.files.length
        ≤ relatedLimit openEngine.config askTwo (askTwo.resolve openEngine.config .keyword) := by
  obtain ⟨origin, cached, hload⟩ := exists_loadPath_row
  have hrow : start openConfig .builtin {} .standard ⟨"/w"⟩ = openEngine := rfl
  have h := findRelated_assembled openConfig .builtin {} .standard ⟨"/w"⟩ row [] "a.py" askTwo
    origin cached
  simp only [Workspace.run, List.foldl_nil, hrow] at h
  obtain ⟨hnodup, hother, hlength, -⟩ := h hload
  exact ⟨origin, cached, hload, hnodup, hother, hlength⟩

/-! ### Asking for fewer files -/

/-- After any run, related files are discovered in an order that does not depend on how many are
asked for: those that imports lead to, nearest first and each at the distance of a shortest way,
and then by path the importers that imports do not lead to.  An answer holds the first ones of them
in the order of their scores, which are those of the distances and eighty for importers.  So what
is left out scores higher than what is shown only if it is an importer and the other is two imports
away or more. -/
theorem findRelated_cap (config : Config) (rules : RuleRegistry) (weights : Weights)
    (globs : GlobLibrary) (root : Path) (memory : MemoryTree) (actions : List Action)
    (path : String) (options : SearchOptions) (origin : AnalyzedFile) (cached : Bool) :
    let workspace := Workspace.run ⟨memory, start config rules weights globs root⟩ actions
    let engine := workspace.engine
    let tree := workspace.memory.tree
    let resolved := options.resolve engine.config .keyword
    let walker := engine.walker resolved
    let graph := engine.importGraph tree
    let files := engine.admitted tree walker
    let target := engine.root.resolveIn path
    (engine.loadPath tree target resolved.maxFileSize { cache := engine.cache }).1
        = .ok (origin, cached) →
      ∃ imported importers : List RelatedFile,
        (∀ related ∈ imported, graph.Walk files origin related.hops related.file
          ∧ (∀ n, graph.Walk files origin n related.file → related.hops ≤ n)
          ∧ 1 ≤ related.hops ∧ related.hops ≤ resolved.maxHops
          ∧ related.score = if related.hops = 1 then 100 else if related.hops = 2 then 60 else 20)
        ∧ imported.Pairwise (fun a b => a.hops ≤ b.hops)
        ∧ (∀ n ≤ resolved.maxHops, ∀ file, graph.Walk files origin n file →
          file.path.components ≠ target.components → ∃ related ∈ imported, related.file = file)
        ∧ (∀ related ∈ importers, related.score = 80
          ∧ (∃ c ∈ walker.walk tree, engine.loaded? tree walker.maxFileSize c = some related.file)
          ∧ graph.Imports related.file target
          ∧ ∀ other ∈ imported, other.file.path.components ≠ related.file.path.components)
        ∧ importers.Pairwise (fun a b => a.file.path.text < b.file.path.text)
        ∧ (∀ c ∈ walker.walk tree, ∀ file, engine.loaded? tree walker.maxFileSize c = some file →
          file.path.components ≠ target.components → graph.Imports file target →
          ∃ related ∈ imported ++ importers, related.file.path.components = file.path.components)
        ∧ ∀ asked : Option Int,
          let capped := { options with maxFiles := asked }
          let limit := relatedLimit engine.config capped (capped.resolve engine.config .keyword)
          let answer := (engine.findRelated tree path capped).1
          let kept := (imported ++ importers).take limit
          answer.files.Perm (kept.map (·.toFile resolved.contextWindow))
          ∧ answer.files.Pairwise RelatedBefore
          ∧ ∀ omitted ∈ imported ++ importers, omitted ∉ kept → ∀ shown ∈ kept,
            totalKey shown.score < totalKey omitted.score →
              omitted ∈ importers ∧ shown ∈ imported ∧ 2 ≤ shown.hops := by
  intro workspace engine tree resolved walker graph files target hload
  obtain ⟨hsound, -⟩ := Workspace.continues_run
    (Workspace.isSound_start config rules weights globs root memory) actions
  have horigin : engine.IsAnalysisAt workspace.memory target origin :=
    isAnalysisAt_of_loadPath hsound.trusts hload
  have htarget : origin.path = target := horigin.path_eq
  have hbreadth := isBreadthFirst_imported engine workspace.memory walker origin resolved.maxHops
  refine ⟨engine.imported workspace.memory walker origin resolved.maxHops,
    engine.importers workspace.memory walker origin resolved.maxHops, ?_, hbreadth.sorted, ?_, ?_,
    pairwise_importers, ?_, fun asked => ?_⟩
  · intro related hrelated
    have hpos := hbreadth.hops_pos related hrelated
    exact ⟨(hbreadth.chain related hrelated).walk, fun n => hops_le_of_walk horigin hrelated, hpos,
      hbreadth.hops_le related hrelated,
      RelatedFile.score_of_imports (hbreadth.direction related hrelated) hpos⟩
  · intro n hn file hwalk hother
    exact exists_mem_imported horigin hn hwalk (htarget ▸ hother)
  · intro related hrelated
    obtain ⟨hwalked, hvia, -, hdirection, hfar⟩ := mem_importers_iff.mp hrelated
    have himports := (ImportGraph.isSome_importOf?_iff.mp (Option.isSome_of_eq_some hvia)).2
    exact ⟨RelatedFile.score_of_importedBy hdirection, hwalked, htarget ▸ himports, hfar⟩
  · intro c hc file hloaded hother himports
    exact exists_mem_discovered_of_imports hc hloaded (htarget ▸ hother) (htarget ▸ himports)
  · intro capped limit answer kept
    -- The other options, and with them the walk, are the same.
    have hcapped : (engine.loadPath tree target (capped.resolve engine.config .keyword).maxFileSize
        { cache := engine.cache }).1 = .ok (origin, cached) := hload
    refine ⟨perm_findRelated hsound.root_plain hsound.trusts hcapped,
      (ordered_findRelated hsound.root_plain hsound.trusts hcapped).2, ?_⟩
    intro omitted homitted hout shown hshown hlt
    obtain ⟨himported, hfar, himporter⟩ :=
      rel_of_not_mem_take pairwise_score_discovered hshown homitted hout hlt
    exact ⟨himporter, himported, hfar⟩

/-- However many files of the row are asked for, the answer holds the first ones of one list. -/
theorem findRelated_cap_row :
    ∃ origin cached, (openEngine.loadPath row.tree (openEngine.root.resolveIn "a.py")
        (askTwo.resolve openEngine.config .keyword).maxFileSize { cache := openEngine.cache }).1
          = .ok (origin, cached)
      ∧ ∃ discovered : List RelatedFile, ∀ asked : Option Int,
        let capped := { askTwo with maxFiles := asked }
        let limit := relatedLimit openEngine.config capped
          (capped.resolve openEngine.config .keyword)
        (openEngine.findRelated row.tree "a.py" capped).1.files.Perm
          ((discovered.take limit).map
            (·.toFile (askTwo.resolve openEngine.config .keyword).contextWindow)) := by
  obtain ⟨origin, cached, hload⟩ := exists_loadPath_row
  have hrow : start openConfig .builtin {} .standard ⟨"/w"⟩ = openEngine := rfl
  have h := findRelated_cap openConfig .builtin {} .standard ⟨"/w"⟩ row [] "a.py" askTwo origin
    cached
  simp only [Workspace.run, List.foldl_nil, hrow] at h
  obtain ⟨imported, importers, -, -, -, -, -, -, hcap⟩ := h hload
  exact ⟨origin, cached, hload, imported ++ importers, fun asked => (hcap asked).1⟩

/-- The related files of a file with the places of their scores, as they are discovered. -/
def relatedScores (engine : Engine) (tree : FileTree) (path : String) (options : SearchOptions) :
    List (String × Int) :=
  let resolved := options.resolve engine.config .keyword
  let work : Work (List RelatedFile) := do
    match ← engine.loadPath tree (engine.root.resolveIn path) resolved.maxFileSize with
    | .ok (origin, _) =>
      engine.relatedFiles tree (engine.walker resolved) origin (engine.root.resolveIn path)
        resolved.maxHops (relatedLimit engine.config options resolved)
    | .error _ => return []
  (work { cache := engine.cache }).1.map fun related =>
    (related.file.path.text, totalKey related.score)

/-- The answer shows these files, with these scores. -/
theorem perm_relatedScores (engine : Engine) (tree : FileTree) (path : String)
    (options : SearchOptions) :
    ((engine.findRelated tree path options).1.files.map fun file =>
      (file.path.text, totalKey file.relevance)).Perm (engine.relatedScores tree path options) := by
  rw [findRelated, fst_run, relatedScores]
  simp only [work_bind]
  cases (engine.loadPath tree (engine.root.resolveIn path)
    (options.resolve engine.config .keyword).maxFileSize { cache := engine.cache }).1 with
  | error failure => exact .refl _
  | ok loaded =>
    refine ((List.mergeSort_perm _ _).map _).trans ?_
    rw [List.map_map]
    exact .refl _

/-- A file that may be looked at is walked to if its path is plain, the way to it is clear and no
file lies deeper. -/
theorem mem_walk_of_filter? {options : ResolvedOptions} {path : Path} {candidate : Candidate}
    (steps : List Component) (hroot : engine.root.IsPlain) (hplain : path.IsPlain)
    (hpath : path.components = engine.root.components ++ steps)
    (hopen : (engine.walker options).Open memory.tree engine.root [] steps)
    (hdeepest : ∀ other ∈ memory.files.map (·.path),
      other.components.length ≤ path.components.length)
    (hcandidate : (engine.walker options).filter? memory.tree path = some candidate) :
    candidate ∈ (engine.walker options).walk memory.tree := by
  obtain ⟨hne, hclear⟩ := (@Walker.open_root_iff (engine.walker options) _ _).mp hopen
  have hleaf : memory.IsLeaf path.components :=
    isLeaf_of_length_le hdeepest (Walker.holds_of_filter? hcandidate).2.2
  have hwalked : path.components = (engine.walker options).root.components ++ steps := hpath
  obtain ⟨c, hc, hsame, rfl⟩ :=
    (Walker.exists_mem_walk_iff hwalked).mpr ⟨hcandidate, hne, hclear, hleaf⟩
  -- The candidate of the walk is written plainly, and so is the path.
  have hcpath : c.path = path :=
    (isLoadable_of_mem_walk (show (engine.walker options).root.IsPlain from hroot)
      hc).current.plain.eq_of_same hplain hsame
  rwa [← hcpath]

/-- A file may be found as an importer if its path is plain, the way to it is clear and no file lies
deeper. -/
theorem exists_importer {options : ResolvedOptions} {target path : Path} (steps : List Component)
    (hroot : engine.root.IsPlain) (hplain : path.IsPlain)
    (hpath : path.components = engine.root.components ++ steps)
    (hopen : (engine.walker options).Open memory.tree engine.root [] steps)
    (hdeepest : ∀ other ∈ memory.files.map (·.path),
      other.components.length ≤ path.components.length)
    (hfound : (((engine.walker options).filter? memory.tree path).bind fun c =>
      (engine.loaded? memory.tree options.maxFileSize c).bind fun file =>
        (engine.importGraph memory.tree).importOf? file target).isSome = true) :
    ∃ c ∈ (engine.walker options).walk memory.tree, ∃ file,
      engine.loaded? memory.tree options.maxFileSize c = some file
        ∧ file.path = path ∧ (engine.importGraph memory.tree).Imports file target := by
  obtain ⟨via, hvia⟩ := Option.isSome_iff_exists.mp hfound
  obtain ⟨candidate, hcandidate, hvia⟩ := Option.bind_eq_some_iff.mp hvia
  obtain ⟨file, hloaded, hvia⟩ := Option.bind_eq_some_iff.mp hvia
  have himports := (ImportGraph.isSome_importOf?_iff.mp (Option.isSome_of_eq_some hvia)).2
  refine ⟨candidate, mem_walk_of_filter? steps hroot hplain hpath hopen hdeepest hcandidate, file,
    hloaded, ?_, himports⟩
  rw [path_of_loaded? hloaded, (Walker.holds_of_filter? hcandidate).1]

/-- If two files are asked for, they are those that imports lead to; and the importer may be looked
at. -/
theorem relatedScores_row :
    openEngine.relatedScores row.tree "a.py" askTwo
        = [("/w/b.py", totalKey 100), ("/w/c.py", totalKey 60)]
      ∧ (((openEngine.walker (askTwo.resolve openEngine.config .keyword)).filter? row.tree
        ⟨"/w/d.py"⟩).bind fun c =>
          (openEngine.loaded? row.tree
            (askTwo.resolve openEngine.config .keyword).maxFileSize c).bind fun file =>
              (openEngine.importGraph row.tree).importOf? file
                (openEngine.root.resolveIn "a.py")).isSome = true := by
  decide +kernel

/-- The walk yields the importer, which imports lead nowhere near. -/
theorem exists_importer_row :
    ∃ c ∈ (openEngine.walker (askTwo.resolve openEngine.config .keyword)).walk row.tree, ∃ file,
      openEngine.loaded? row.tree (askTwo.resolve openEngine.config .keyword).maxFileSize c
          = some file
        ∧ file.path = ⟨"/w/d.py"⟩
        ∧ (openEngine.importGraph row.tree).Imports file (openEngine.root.resolveIn "a.py") :=
  exists_importer [.normal "d.py"] (isPlain_normalize ⟨"/w"⟩) (by decide)
    (by decide) (by decide) (by decide) relatedScores_row.2

/-- Under the built-in rules what is left out may score higher than what is shown. -/
theorem not_forall_cap_keeps_best :
    ¬∀ (config : Config) (rules : RuleRegistry) (weights : Weights) (globs : GlobLibrary)
      (root : Path) (memory : MemoryTree) (path : String) (options : SearchOptions),
      RuleRegistry.builtin? = some rules →
      let engine := start config rules weights globs root
      let resolved := options.resolve engine.config .keyword
      let walker := engine.walker resolved
      let target := engine.root.resolveIn path
      let answer := (engine.findRelated memory.tree path options).1
      ∀ c ∈ walker.walk memory.tree, ∀ omitted,
        engine.loaded? memory.tree walker.maxFileSize c = some omitted →
        omitted.path.components ≠ target.components →
        (engine.importGraph memory.tree).Imports omitted target →
        (∀ file ∈ answer.files, file.path.components ≠ omitted.path.components) →
        ∀ file ∈ answer.files, totalKey 80 ≤ totalKey file.relevance := by
  intro h
  obtain ⟨c, hc, omitted, hloaded, hpath, himports⟩ := exists_importer_row
  have hperm := perm_relatedScores openEngine row.tree "a.py" askTwo
  rw [relatedScores_row.1] at hperm
  obtain ⟨shown, hshown, hkeys⟩ := List.mem_map.mp
    (hperm.mem_iff.mpr (List.mem_cons_of_mem _ List.mem_cons_self))
  have hother : omitted.path.components ≠ (openEngine.root.resolveIn "a.py").components := by
    rw [hpath]
    decide
  have hout : ∀ file ∈ (openEngine.findRelated row.tree "a.py" askTwo).1.files,
      file.path.components ≠ omitted.path.components := by
    intro file hfile hsame
    have hmem := hperm.mem_iff.mp (List.mem_map_of_mem hfile)
    have hpaths : file.path = ⟨"/w/b.py"⟩ ∨ file.path = ⟨"/w/c.py"⟩ := by
      rw [List.mem_pair, Prod.mk.injEq, Prod.mk.injEq] at hmem
      exact hmem.imp (fun h => congrArg Path.mk h.1) fun h => congrArg Path.mk h.1
    obtain hfirst | hsecond := hpaths
    · rw [hfirst, hpath] at hsame
      exact absurd hsame (by decide)
    · rw [hsecond, hpath] at hsame
      exact absurd hsame (by decide)
  have hle := h openConfig .builtin {} .standard ⟨"/w"⟩ row "a.py" askTwo RuleRegistry.builtin?_eq c
    hc omitted hloaded hother himports hout shown hshown
  rw [(Prod.mk.inj hkeys).2] at hle
  exact absurd hle (Int.not_le.mpr RelatedFile.totalKey_scores.2.1)

end Engine

end SourceRetrieval
