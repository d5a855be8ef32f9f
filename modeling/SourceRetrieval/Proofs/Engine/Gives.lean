/-
What work gives as long as the cache is faithful.

* `Gives` — a piece of work gives a value, whatever the cache holds, if the cache has a
  property that the work preserves;
* `gives_traverse` — to follow imports by loading files is to follow them through a map
  of files;
* `gives_relatedFiles` — so the files related to a file are a function of the tree
  (`relatedTo`);
* `findRelated_of_loadPath` — and the answer is made of them.

Design notes: with a faithful cache each load gives what an analysis of the file as it
stands gives (`Engine.loaded?`), and work is put together of loads by `bind`.  The map
of files holds those that a walk would list, and imports name plain paths, so it may
go by components.
-/
import SourceRetrieval.Proofs.Engine.Keeps
import SourceRetrieval.Proofs.Imports.BreadthFirst

namespace SourceRetrieval.Engine

open MemoryTree SourceRetrieval.Path

/-- The work gives the value and keeps the property, if the cache has it. -/
def Gives {α : Type} (P : AnalysisCache → Prop) (work : Work α) (value : α) : Prop :=
  ∀ session, P session.cache → (work session).1 = value ∧ P (work session).2.cache

variable {P : AnalysisCache → Prop} {engine : Engine} {memory : MemoryTree} {tree : FileTree}
  {walker : Walker} {α β : Type}

theorem Gives.pure (value : α) : Gives P (pure value) value := fun _ h => ⟨rfl, h⟩

theorem Gives.bind {work : Work α} {next : α → Work β} {value : α} {result : β}
    (hwork : Gives P work value) (hnext : Gives P (next value) result) :
    Gives P (work >>= next) result := by
  intro session h
  obtain ⟨hvalue, hafter⟩ := hwork session h
  rw [work_bind, hvalue]
  exact hnext _ hafter

/-! ### Following imports -/

section Imports

variable {work : Path → Work (Option AnalyzedFile)} {load : ImportGraph.Loader}
  {graph : ImportGraph} {maxHops maxFiles depth : Nat}

theorem gives_followEdges {edges : List (String × Path)}
    (hload : ∀ edge ∈ edges, Gives P (work edge.2) (load edge.2)) (found : ImportGraph.Found) :
    Gives P (ImportGraph.followEdges work maxFiles depth edges found)
      (ImportGraph.follow load maxFiles depth edges found) := by
  induction edges generalizing found with
  | nil => exact .pure _
  | cons edge edges ih =>
    have hrest := fun found => ih (fun e he => hload e (List.mem_cons_of_mem _ he)) found
    rw [ImportGraph.followEdges, ImportGraph.follow, ImportGraph.meet]
    by_cases hfull : maxFiles ≤ found.related.length
    · rw [if_pos hfull, if_pos hfull]
      exact .pure _
    · rw [if_neg hfull, if_neg hfull]
      by_cases hseen : found.visited.any (·.same edge.2) = true
      · rw [if_pos hseen, if_pos hseen]
        exact hrest found
      · rw [if_neg hseen, if_neg hseen]
        refine (hload edge List.mem_cons_self).bind ?_
        cases load edge.2 with
        | none => exact hrest _
        | some file => exact hrest _

variable (hload : ∀ file, ∀ edge ∈ graph.dependencies file, Gives P (work edge.2) (load edge.2))

include hload

theorem gives_drain (fuel : Nat) (found : ImportGraph.Found) :
    Gives P (graph.drain work maxHops maxFiles fuel found)
      (graph.drain load maxHops maxFiles fuel found) := by
  induction fuel generalizing found with
  | zero => exact .pure _
  | succ fuel ih =>
    rw [ImportGraph.drain_succ, ImportGraph.drain, ImportGraph.turn]
    rcases hqueue : found.queue with _ | ⟨⟨file, depth⟩, rest⟩
    · exact .pure _
    · by_cases hfar : maxHops ≤ depth
      · simp only [if_pos hfar]
        exact ih _
      · simp only [if_neg hfar]
        refine (gives_followEdges (hload file) _).bind ?_
        obtain ⟨after, full⟩ := ImportGraph.follow load maxFiles depth (graph.dependencies file)
          { found with queue := rest }
        cases full with
        | true => exact .pure _
        | false => exact ih _

/-- To follow imports by loading files is to follow them through what the loads give. -/
theorem gives_traverse (start : AnalyzedFile) :
    Gives P (graph.traverse work start maxHops maxFiles)
      (graph.traverse load start maxHops maxFiles).run :=
  (gives_drain hload _ _).bind (.pure _)

end Imports

/-! ### Loading -/

theorem gives_loadCandidate {maxSize : Nat} {candidate : Candidate}
    (h : IsLoadable memory maxSize candidate) :
    Gives (engine.Trusts memory) (engine.loadCandidate memory.tree maxSize candidate)
      (engine.loaded? memory.tree maxSize candidate) := by
  intro session htrusts
  obtain ⟨hkeeps, hloaded, -⟩ := loadCandidate_spec h.current h.size_le htrusts
  exact ⟨hloaded, hkeeps⟩

theorem path_of_admit? {path : Path} {candidate : Candidate}
    (h : walker.admit? tree path = some candidate) : candidate.path = path := by
  rw [Walker.admit?] at h
  split at h
  · cases h
  · obtain ⟨-, known, -, -, -, rfl⟩ := Walker.filter?_eq_some_iff.mp h
    rfl

/-- The files that a walk would list, by components. -/
def admitted (engine : Engine) (tree : FileTree) (walker : Walker) : FileMap where
  at? place :=
    if (ofComponents place).components = place then
      (walker.admit? tree (ofComponents place)).bind (engine.loaded? tree walker.maxFileSize)
    else none
  path_eq {place file} h := by
    split at h
    next hplace =>
      obtain ⟨candidate, hcandidate, hloaded⟩ := Option.bind_eq_some_iff.mp h
      rw [path_of_loaded? hloaded, path_of_admit? hcandidate, hplace]
    next => cases h

theorem admitted_at? {path : Path} (hplain : path.IsPlain) :
    (engine.admitted tree walker).at? path.components
      = (walker.admit? tree path).bind (engine.loaded? tree walker.maxFileSize) := by
  simp only [admitted, show ofComponents path.components = path from hplain, if_true]

theorem gives_loadTarget {path : Path} (hplain : path.IsPlain) :
    Gives (engine.Trusts memory) (engine.loadTarget memory.tree walker path)
      ((engine.admitted memory.tree walker).load path) := by
  rw [loadTarget, FileMap.load, admitted_at? hplain]
  cases hcandidate : walker.admit? memory.tree path with
  | none => exact .pure _
  | some candidate => exact gives_loadCandidate (isLoadable_of_admit? hplain hcandidate)

/-! ### Related files -/

/-- What a candidate is to a file that it imports. -/
def importer? (engine : Engine) (tree : FileTree) (maxSize : Nat) (target : Path)
    (candidate : Candidate) : Option RelatedFile := do
  let file ← engine.loaded? tree maxSize candidate
  let via ← (engine.importGraph tree).importOf? file target
  return ⟨file, 1, via, .importedBy⟩

theorem gives_importersAmong {maxSize : Nat} (target : Path) {candidates : List Candidate}
    (hcandidates : ∀ c ∈ candidates, IsLoadable memory maxSize c) :
    Gives (engine.Trusts memory) (engine.importersAmong memory.tree maxSize target candidates)
      (candidates.filterMap (engine.importer? memory.tree maxSize target)) := by
  induction candidates with
  | nil => exact .pure _
  | cons candidate rest ih =>
    rw [importersAmong, List.filterMap_cons]
    refine (gives_loadCandidate (hcandidates candidate List.mem_cons_self)).bind ?_
    refine (ih fun c hc => hcandidates c (List.mem_cons_of_mem _ hc)).bind ?_
    change Gives _ (Pure.pure ((engine.importer? memory.tree maxSize target candidate).toList ++ _)) _
    cases engine.importer? memory.tree maxSize target candidate with
    | none => exact .pure _
    | some importer => exact .pure _

/-- The files of the walk that import a file, in the order of their paths, those known already left
out. -/
def importersBeside (engine : Engine) (tree : FileTree) (walker : Walker) (target : Path)
    (known : List Path) : List RelatedFile :=
  let candidates := (walker.walk tree).filter fun candidate => !known.any (·.same candidate.path)
  (candidates.filterMap (engine.importer? tree walker.maxFileSize target)).mergeSort fun a b =>
    compare a.file.path.text b.file.path.text != .gt

/-- The files related to a file, at most `limit` of them, when every file is analyzed anew. -/
def relatedTo (engine : Engine) (tree : FileTree) (walker : Walker) (start : AnalyzedFile)
    (target : Path) (maxHops limit : Nat) : List RelatedFile :=
  let imported := ((engine.importGraph tree).traverse (engine.admitted tree walker).load start
    maxHops limit).run
  if limit ≤ imported.length then imported
  else
    let known := target :: imported.map (·.file.path)
    imported ++ (engine.importersBeside tree walker target known).take (limit - imported.length)

/-- With a faithful cache the files related to a file are found as if every file were analyzed
anew. -/
theorem gives_relatedFiles (hroot : walker.root.IsPlain) (start : AnalyzedFile) (target : Path)
    (maxHops limit : Nat) :
    Gives (engine.Trusts memory)
      (engine.relatedFiles memory.tree walker start target maxHops limit)
      (engine.relatedTo memory.tree walker start target maxHops limit) := by
  rw [relatedFiles, relatedTo]
  refine (gives_traverse (fun file edge hedge =>
    gives_loadTarget (isPlain_of_mem_dependencies file edge hedge)) start).bind ?_
  split
  · exact .pure _
  · refine (gives_importersAmong target fun c hc => ?_).bind (.pure _)
    exact isLoadable_of_mem_walk hroot (List.mem_filter.mp hc).1

/-- What is loaded of a plain path is the analysis of the file as it stands. -/
theorem analysisOf_of_loadPath {path : Path} (hplain : path.IsPlain) {maxSize : Nat}
    {session : Session} (htrusts : engine.Trusts memory session.cache) {loaded : AnalyzedFile}
    {cached : Bool}
    (h : (engine.loadPath memory.tree path maxSize session).1 = .ok (loaded, cached)) :
    ∃ file, memory.file? path = some file ∧ engine.analysisOf path file.content = .ok loaded := by
  rw [loadPath] at h
  cases hstat : memory.tree.stat path with
  | error failure => rw [hstat] at h; cases h
  | ok known =>
    cases hdir : known.isDir with
    | true => simp only [hstat, hdir, if_true] at h; cases h
    | false =>
      have hcurrent : IsCurrent memory path known.modified known.size :=
        isCurrent_of_stat hplain (by rw [hstat]; rfl) hdir
      obtain ⟨file, hfile, hmodified, hanalyze⟩ :=
        @analyzeFile_eq engine memory path known.modified known.size maxSize hcurrent
      refine ⟨file, hfile, ?_⟩
      simp only [hstat, hdir, Bool.false_eq_true, if_false, loadKnown_eq] at h
      cases hserved : (session.cache.get path known.modified known.size).1 with
      | some served =>
        -- The entry served has the time of the file, and its plain path is the one asked for.
        obtain ⟨entry, hentry, hpath, htime, -, rfl⟩ := AnalysisCache.exists_of_get hserved
        simp only [hserved] at h
        cases h
        have hfaithful := htrusts entry hentry
        have hsame : entry.path = path := hfaithful.plain.eq_of_same hplain hpath
        rw [← hsame] at hfile ⊢
        exact hfaithful.analysis file hfile (hmodified.trans htime.symm)
      | none =>
        simp only [hserved, loadFresh_eq, hanalyze] at h
        split at h
        · cases h
        next analyzed hanalyzed =>
          cases h
          split at hanalyzed
          · cases hanalyzed
          · exact hanalyzed

/-- The answer about a file that can be loaded is made of the files related to it. -/
theorem findRelated_of_loadPath (hroot : engine.root.IsPlain)
    (htrusts : engine.Trusts memory engine.cache) {path : String} {options : SearchOptions}
    {start : AnalyzedFile} {cached : Bool}
    (h : (engine.loadPath memory.tree (engine.root.resolveIn path)
      (options.resolve engine.config .keyword).maxFileSize { cache := engine.cache }).1
        = .ok (start, cached)) :
    let resolved := options.resolve engine.config .keyword
    let related := engine.relatedTo memory.tree (engine.walker resolved) start
      (engine.root.resolveIn path) resolved.maxHops (relatedLimit engine.config options resolved)
    let answer := (engine.findRelated memory.tree path options).1
    answer.files = ((related.map (·.toFile resolved.contextWindow)).mergeSort fun a b =>
        rankRelated a b != .gt)
      ∧ answer.totalMatches = related.length := by
  intro resolved related answer
  have hloaded : engine.Trusts memory (engine.loadPath memory.tree (engine.root.resolveIn path)
      resolved.maxFileSize { cache := engine.cache }).2.cache :=
    keeps_loadPath (isPlain_resolveIn _ _) _ _ htrusts
  have hgives := (@gives_relatedFiles engine memory (engine.walker resolved) hroot start
    (engine.root.resolveIn path) resolved.maxHops
    (relatedLimit engine.config options resolved) _ hloaded).1
  simp only [answer, findRelated, fst_run, work_bind, h]
  exact ⟨congrArg (fun found : List RelatedFile => (found.map _).mergeSort _) hgives,
    congrArg List.length hgives⟩

end SourceRetrieval.Engine
