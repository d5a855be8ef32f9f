/-
In which order related files are discovered, and in which order they are shown.

* `relatedTo_eq_take` — the files related to a file are the first ones of those it
  imports (`imported`), followed by those that import it (`importers`);
* `mem_importers_iff`, `exists_mem_imported` — no file is missing from either list;
* `pairwise_relatedBefore` — an answer shows the files by score, then by the shorter
  relative path and by path.

Design notes: how many files are asked for matters only to where the discovery
stops.  An importer that imports lead to as well is one of the files imported.
-/
import SourceRetrieval.Proofs.Engine.Gives
import SourceRetrieval.Proofs.Imports.Reached
import SourceRetrieval.Proofs.Walk.Admission

namespace SourceRetrieval

open MemoryTree SourceRetrieval.Path

/-! ### Importers -/

namespace ImportGraph

/-- Whether an import of a file names a path. -/
def Imports (graph : ImportGraph) (file : AnalyzedFile) (target : Path) : Prop :=
  ∃ edge ∈ graph.dependencies file, edge.2.components = target.components

/-- An edge to a given path is found if there is one, unless the file has the path itself. -/
theorem isSome_importOf?_iff {graph : ImportGraph} {file : AnalyzedFile} {target : Path} :
    (graph.importOf? file target).isSome = true
      ↔ file.path.components ≠ target.components ∧ graph.Imports file target := by
  rw [importOf?, Imports]
  by_cases hself : file.path.same target = true
  · rw [if_pos hself]
    exact iff_of_false (by simp) fun h => h.1 (same_iff.mp hself)
  · rw [if_neg hself, List.find?_isSome, and_iff_right fun h => hself (same_iff.mpr h)]
    constructor
    · rintro ⟨spec, hspec, hany⟩
      obtain ⟨path, hpath, hsame⟩ := List.any_eq_true.mp hany
      exact ⟨(spec, path), List.mem_flatMap.mpr ⟨spec, hspec, List.mem_map_of_mem hpath⟩,
        same_iff.mp hsame⟩
    · rintro ⟨edge, hedge, hsame⟩
      obtain ⟨spec, hspec, hedge⟩ := List.mem_flatMap.mp hedge
      obtain ⟨path, hpath, rfl⟩ := List.mem_map.mp hedge
      exact ⟨spec, hspec, List.any_eq_true.mpr ⟨path, hpath, same_iff.mpr hsame⟩⟩

end ImportGraph

namespace Engine

variable {engine : Engine} {memory : MemoryTree} {tree : FileTree} {walker : Walker}
  {origin : AnalyzedFile} {maxHops : Nat}

theorem importer?_eq_some_iff {maxSize : Nat} {target : Path} {candidate : Candidate}
    {related : RelatedFile} :
    engine.importer? tree maxSize target candidate = some related ↔
      engine.loaded? tree maxSize candidate = some related.file
        ∧ (engine.importGraph tree).importOf? related.file target = some related.via
        ∧ related.hops = 1 ∧ related.direction = .importedBy := by
  obtain ⟨file, hops, via, direction⟩ := related
  simp only [importer?, Option.bind_eq_bind, Option.bind_eq_some_iff, Option.pure_def,
    Option.some_inj, RelatedFile.mk.injEq]
  constructor
  · rintro ⟨_, hloaded, _, hvia, rfl, rfl, rfl, rfl⟩
    exact ⟨hloaded, hvia, rfl, rfl⟩
  · rintro ⟨hloaded, hvia, rfl, rfl⟩
    exact ⟨file, hloaded, via, hvia, rfl, rfl, rfl, rfl⟩

/-! ### The order of discovery -/

/-- The files within `maxHops` imports of a file, nearest first. -/
def imported (engine : Engine) (memory : MemoryTree) (walker : Walker) (origin : AnalyzedFile)
    (maxHops : Nat) : List RelatedFile :=
  (engine.importGraph memory.tree).reached (engine.admitted memory.tree walker) origin
    (memory.files.map (·.path.components)) maxHops

/-- The files that import a file, by path, without those that imports lead to. -/
def importers (engine : Engine) (memory : MemoryTree) (walker : Walker) (origin : AnalyzedFile)
    (maxHops : Nat) : List RelatedFile :=
  engine.importersBeside memory.tree walker origin.path
    (origin.path :: (engine.imported memory walker origin maxHops).map (·.file.path))

/-- The files related to a file in the order in which they are discovered. -/
def discovered (engine : Engine) (memory : MemoryTree) (walker : Walker) (origin : AnalyzedFile)
    (maxHops : Nat) : List RelatedFile :=
  engine.imported memory walker origin maxHops ++ engine.importers memory walker origin maxHops

theorem mem_discovered {related : RelatedFile} :
    related ∈ engine.discovered memory walker origin maxHops ↔
      related ∈ engine.imported memory walker origin maxHops
        ∨ related ∈ engine.importers memory walker origin maxHops := List.mem_append

/-- Only what is a file of the tree is admitted. -/
theorem mem_places_of_admit? {path : Path} {candidate : Candidate}
    (h : walker.admit? memory.tree path = some candidate) :
    path.components ∈ memory.files.map (·.path.components) := by
  rw [Walker.admit?] at h
  split at h
  · cases h
  · obtain ⟨stored, hstored, hpath⟩ := (Walker.holds_of_filter? h).2.2
    exact List.mem_map.mpr ⟨stored, hstored, hpath⟩

/-- Only what is a file of the tree can be loaded. -/
theorem mem_places_of_admitted {place : List Component} {file : AnalyzedFile}
    (h : (engine.admitted memory.tree walker).at? place = some file) :
    place ∈ memory.files.map (·.path.components) := by
  simp only [admitted] at h
  split at h
  next hplace =>
    obtain ⟨candidate, hcandidate, -⟩ := Option.bind_eq_some_iff.mp h
    exact hplace ▸ mem_places_of_admit? hcandidate
  next => cases h

theorem traverse_admitted (engine : Engine) (memory : MemoryTree) (walker : Walker)
    (origin : AnalyzedFile) (maxHops limit : Nat) :
    ((engine.importGraph memory.tree).traverse (engine.admitted memory.tree walker).load origin
      maxHops limit).run = (engine.imported memory walker origin maxHops).take limit :=
  ImportGraph.traverse_eq_take mem_places_of_admitted _ _ _ _

/-- The files related to a file are the first ones in the order of discovery. -/
theorem relatedTo_eq_take (engine : Engine) (memory : MemoryTree) (walker : Walker)
    (origin : AnalyzedFile) (maxHops limit : Nat) :
    engine.relatedTo memory.tree walker origin origin.path maxHops limit
      = (engine.discovered memory walker origin maxHops).take limit := by
  simp only [relatedTo, traverse_admitted, discovered]
  by_cases hroom : limit ≤ (engine.imported memory walker origin maxHops).length
  · rw [if_pos (by rw [List.length_take]; omega), List.take_append_of_le_length hroom]
  · -- There is room for importers, so no file imported has been left out.
    have hall : (engine.imported memory walker origin maxHops).take limit
        = engine.imported memory walker origin maxHops :=
      List.take_of_length_le (Nat.le_of_lt (Nat.not_le.mp hroom))
    rw [hall, if_neg hroom, List.take_append, hall, importers]

theorem isBreadthFirst_imported (engine : Engine) (memory : MemoryTree) (walker : Walker)
    (origin : AnalyzedFile) (maxHops : Nat) :
    (engine.importGraph memory.tree).IsBreadthFirst (engine.admitted memory.tree walker) origin
      maxHops (engine.imported memory walker origin maxHops) :=
  ImportGraph.isBreadthFirst_reached _ _ _ _ _

/-- A file of the walk is an importer if one of its imports names the file, unless imports lead
to it. -/
theorem mem_importers_iff {related : RelatedFile} :
    related ∈ engine.importers memory walker origin maxHops ↔
      (∃ c ∈ walker.walk memory.tree,
          engine.loaded? memory.tree walker.maxFileSize c = some related.file)
        ∧ (engine.importGraph memory.tree).importOf? related.file origin.path = some related.via
        ∧ related.hops = 1 ∧ related.direction = .importedBy
        ∧ ∀ other ∈ engine.imported memory walker origin maxHops,
          other.file.path.components ≠ related.file.path.components := by
  have hknown : ∀ path : Path, (!(origin.path
      :: (engine.imported memory walker origin maxHops).map (·.file.path)).any (·.same path)) = true
      ↔ origin.path.components ≠ path.components
        ∧ ∀ other ∈ engine.imported memory walker origin maxHops,
          other.file.path.components ≠ path.components := by
    intro path
    simp only [Bool.not_eq_true', List.any_eq_false, List.forall_mem_cons, List.forall_mem_map,
      same_iff, Ne]
  rw [importers, importersBeside, (List.mergeSort_perm _ _).mem_iff, List.mem_filterMap]
  simp only [List.mem_filter, hknown, importer?_eq_some_iff]
  constructor
  · rintro ⟨c, ⟨hwalk, -, hfar⟩, hloaded, hvia, hhops, hdirection⟩
    rw [← path_of_loaded? hloaded] at hfar
    exact ⟨⟨c, hwalk, hloaded⟩, hvia, hhops, hdirection, hfar⟩
  · rintro ⟨⟨c, hwalk, hloaded⟩, hvia, hhops, hdirection, hfar⟩
    have hother := (ImportGraph.isSome_importOf?_iff.mp (Option.isSome_of_eq_some hvia)).1
    rw [path_of_loaded? hloaded] at hother hfar
    exact ⟨c, ⟨hwalk, hother.symm, hfar⟩, hloaded, hvia, hhops, hdirection⟩

/-- No two importers have the same components. -/
theorem nodup_importers :
    ((engine.importers memory walker origin maxHops).map (·.file.path.components)).Nodup := by
  rw [importers, importersBeside, ((List.mergeSort_perm _ _).map _).nodup_iff]
  refine List.pairwise_map.mpr (List.pairwise_filterMap.mpr ?_)
  refine ((Walker.pairwise_walk walker memory).filter _).imp fun hne a ha b hb hsame => hne ?_
  rwa [← path_of_loaded? (importer?_eq_some_iff.mp ha).1,
    ← path_of_loaded? (importer?_eq_some_iff.mp hb).1]

/-- Importers stand in the order of their paths. -/
theorem pairwise_importers :
    (engine.importers memory walker origin maxHops).Pairwise fun a b =>
      a.file.path.text < b.file.path.text := by
  let text (related : RelatedFile) : String := related.file.path.text
  have htext : ∀ a b, compareOn text a b = .eq → text a = text b := by
    intro a b heq
    rw [compareOn] at heq
    exact Std.LawfulEqCmp.eq_of_compare heq
  have hnodup := @nodup_importers engine memory walker origin maxHops
  rw [importers, importersBeside, ((List.mergeSort_perm _ _).map _).nodup_iff] at hnodup
  exact (pairwise_lt_mergeSort text htext (nodup_text (fun related : RelatedFile =>
    related.file.path) hnodup)).imp compareOfLessAndEq_eq_lt.mp

/-- No file is discovered twice. -/
theorem nodup_discovered :
    ((engine.discovered memory walker origin maxHops).map (·.file.path.components)).Nodup := by
  rw [discovered, List.map_append]
  refine List.nodup_append.mpr
    ⟨(isBreadthFirst_imported engine memory walker origin maxHops).distinct, nodup_importers, ?_⟩
  intro place hplace place' hplace' heq
  obtain ⟨other, hother, rfl⟩ := List.mem_map.mp hplace
  obtain ⟨related, hrelated, rfl⟩ := List.mem_map.mp hplace'
  exact (mem_importers_iff.mp hrelated).2.2.2.2 other hother heq

/-! ### What is discovered -/

/-- The analysis of the file at a plain path, as it stands. -/
structure IsAnalysisAt (engine : Engine) (memory : MemoryTree) (path : Path)
    (analyzed : AnalyzedFile) : Prop where
  plain : path.IsPlain
  analysis : ∃ file, memory.file? path = some file
    ∧ engine.analysisOf path file.content = .ok analyzed

theorem IsAnalysisAt.path_eq {path : Path} {analyzed : AnalyzedFile}
    (h : engine.IsAnalysisAt memory path analyzed) : analyzed.path = path := by
  obtain ⟨-, file, -, hanalysis⟩ := h
  exact path_of_analysisOf hanalysis

/-- Whoever loads the file gets the same analysis. -/
theorem IsAnalysisAt.eq_of_admitted {path : Path} {analyzed other : AnalyzedFile}
    (h : engine.IsAnalysisAt memory path analyzed)
    (hother : (engine.admitted memory.tree walker).at? path.components = some other) :
    other = analyzed := by
  obtain ⟨hplain, file, hfile, hanalysis⟩ := h
  rw [admitted_at? hplain] at hother
  obtain ⟨candidate, hcandidate, hloaded⟩ := Option.bind_eq_some_iff.mp hother
  obtain ⟨file', hfile', hanalysis'⟩ :=
    analysisOf_of_loaded? (isLoadable_of_admit? hplain hcandidate) hloaded
  rw [path_of_admit? hcandidate] at hfile' hanalysis'
  obtain rfl : file = file' := Option.some_inj.mp (hfile.symm.trans hfile')
  exact Except.ok.inj (hanalysis'.symm.trans hanalysis)

section Origin

variable {path : Path} (horigin : engine.IsAnalysisAt memory path origin)

include horigin

/-- Of a way that comes back to the file the rest is enough. -/
theorem exists_chain_of_walk {n : Nat} {file : AnalyzedFile}
    (h : (engine.importGraph memory.tree).Walk (engine.admitted memory.tree walker) origin n file) :
    ∃ m ≤ n, (engine.importGraph memory.tree).Chain (engine.admitted memory.tree walker) origin m
      file :=
  h.exists_chain fun _ hfile => horigin.eq_of_admitted (horigin.path_eq ▸ hfile)

/-- A file that is discovered has the distance of the shortest way to it. -/
theorem hops_le_of_walk {related : RelatedFile}
    (h : related ∈ engine.imported memory walker origin maxHops) {n : Nat}
    (hwalk : (engine.importGraph memory.tree).Walk (engine.admitted memory.tree walker) origin n
      related.file) : related.hops ≤ n := by
  obtain ⟨m, hm, hchain⟩ := exists_chain_of_walk horigin hwalk
  have hbreadth := isBreadthFirst_imported engine memory walker origin maxHops
  exact Nat.le_trans (hbreadth.shortest related h m hchain) hm

/-- Every file that few enough imports lead to is discovered. -/
theorem exists_mem_imported {n : Nat} {file : AnalyzedFile} (hn : n ≤ maxHops)
    (hwalk : (engine.importGraph memory.tree).Walk (engine.admitted memory.tree walker) origin n file)
    (hother : file.path.components ≠ origin.path.components) :
    ∃ related ∈ engine.imported memory walker origin maxHops, related.file = file := by
  obtain ⟨m, hm, hchain⟩ := exists_chain_of_walk horigin hwalk
  exact ImportGraph.mem_reached_of_chain mem_places_of_admitted (Nat.le_trans hm hn) hchain hother

end Origin

/-- Every file of the walk that imports the file is discovered. -/
theorem exists_mem_discovered_of_imports {c : Candidate} (hc : c ∈ walker.walk memory.tree)
    {file : AnalyzedFile} (hloaded : engine.loaded? memory.tree walker.maxFileSize c = some file)
    (hother : file.path.components ≠ origin.path.components)
    (himports : (engine.importGraph memory.tree).Imports file origin.path) :
    ∃ related ∈ engine.discovered memory walker origin maxHops,
      related.file.path.components = file.path.components := by
  by_cases hknown : ∃ related ∈ engine.imported memory walker origin maxHops,
      related.file.path.components = file.path.components
  · obtain ⟨related, hmem, hsame⟩ := hknown
    exact ⟨related, mem_discovered.mpr (.inl hmem), hsame⟩
  · obtain ⟨via, hvia⟩ := Option.isSome_iff_exists.mp
      (ImportGraph.isSome_importOf?_iff.mpr ⟨hother, himports⟩)
    refine ⟨⟨file, 1, via, .importedBy⟩, mem_discovered.mpr (.inr ?_), rfl⟩
    exact mem_importers_iff.mpr ⟨⟨c, hc, hloaded⟩, hvia, rfl, rfl,
      fun other hmem hsame => hknown ⟨other, hmem, hsame⟩⟩

theorem isSome_admit?_of_admitted {place : List Component} {file : AnalyzedFile}
    (h : (engine.admitted tree walker).at? place = some file) :
    (walker.admit? tree file.path).isSome = true := by
  simp only [admitted] at h
  split at h
  next =>
    obtain ⟨candidate, hcandidate, hloaded⟩ := Option.bind_eq_some_iff.mp h
    rw [path_of_loaded? hloaded, path_of_admit? hcandidate, hcandidate]
    rfl
  next => cases h

/-- What is discovered has another path than the file, is admitted, and is reached by imports or
imports the file. -/
theorem discovered_cases {related : RelatedFile}
    (h : related ∈ engine.discovered memory walker origin maxHops) :
    related.file.path.components ≠ origin.path.components
      ∧ (walker.admit? memory.tree related.file.path).isSome = true
      ∧ (related.hops ≤ maxHops ∧ (engine.importGraph memory.tree).Walk
            (engine.admitted memory.tree walker) origin related.hops related.file
        ∨ (engine.importGraph memory.tree).Imports related.file origin.path) := by
  have hbreadth := isBreadthFirst_imported engine memory walker origin maxHops
  rcases mem_discovered.mp h with h | h
  · have hother := hbreadth.other related h
    have hchain := hbreadth.chain related h
    refine ⟨hother, ?_, .inl ⟨hbreadth.hops_le related h, hchain.walk⟩⟩
    obtain ⟨-, hself⟩ | ⟨-, -, hfile⟩ := hchain.eq_start_or
    · exact absurd (congrArg (·.path.components) hself) hother
    · exact isSome_admit?_of_admitted hfile
  · obtain ⟨⟨c, hc, hloaded⟩, hvia, -⟩ := mem_importers_iff.mp h
    obtain ⟨hother, himports⟩ :=
      ImportGraph.isSome_importOf?_iff.mp (Option.isSome_of_eq_some hvia)
    refine ⟨hother, ?_, .inr himports⟩
    rw [path_of_loaded? hloaded, Walker.admit?_of_mem_walk hc]
    rfl

/-- No more files are discovered than the tree has. -/
theorem length_discovered_le :
    (engine.discovered memory walker origin maxHops).length ≤ memory.files.length := by
  have hplaces : (engine.discovered memory walker origin maxHops).map (·.file.path.components)
      ⊆ memory.files.map (·.path.components) := by
    intro place hplace
    obtain ⟨related, hrelated, rfl⟩ := List.mem_map.mp hplace
    obtain ⟨candidate, hcandidate⟩ :=
      Option.isSome_iff_exists.mp (discovered_cases hrelated).2.1
    exact mem_places_of_admit? hcandidate
  have hlength := (List.subperm_of_subset nodup_discovered hplaces).length_le
  rwa [List.length_map, List.length_map] at hlength

end Engine

/-! ### The order of an answer -/

/-- One related file stands before another: it has the greater score, or else the shorter relative
path, or else the path that comes first. -/
def RelatedBefore (a b : AnalyzedFile) : Prop :=
  totalKey b.relevance < totalKey a.relevance
    ∨ totalKey a.relevance = totalKey b.relevance
      ∧ (a.relativePath.utf8ByteSize < b.relativePath.utf8ByteSize
        ∨ a.relativePath.utf8ByteSize = b.relativePath.utf8ByteSize
          ∧ a.path.text < b.path.text)

theorem rankRelated_eq_compareLex :
    rankRelated = compareLex (fun a b => compareScores a.relevance b.relevance)
      (compareLex (compareOn (·.relativePath.utf8ByteSize)) (compareOn (·.path.text))) := rfl

instance : Std.TransCmp rankRelated := by
  have hscore : Std.TransCmp fun a b : AnalyzedFile => compareScores a.relevance b.relevance :=
    inferInstanceAs (Std.TransCmp fun a b : AnalyzedFile => compareOn (totalKey ·.relevance) b a)
  rw [rankRelated_eq_compareLex]
  infer_instance

theorem rankRelated_eq_lt_iff {a b : AnalyzedFile} :
    rankRelated a b = .lt ↔ RelatedBefore a b := by
  have hscore : compareScores a.relevance b.relevance = .eq
      ↔ totalKey a.relevance = totalKey b.relevance := by
    rw [compareScores, Std.LawfulEqCmp.compare_eq_iff_eq]
    exact eq_comm
  have htext : compare a.path.text b.path.text = .lt ↔ a.path.text < b.path.text :=
    compareOfLessAndEq_eq_lt
  rw [rankRelated, Ordering.then_eq_lt, Ordering.then_eq_lt, hscore, htext, compareScores,
    Std.LawfulEqCmp.compare_eq_iff_eq, Nat.compare_eq_lt, Int.compare_eq_lt]
  rfl

/-- Files with different paths are shown with each before those that follow. -/
theorem pairwise_relatedBefore {files : List AnalyzedFile}
    (h : (files.map (·.path.components)).Nodup) :
    (files.mergeSort fun a b => rankRelated a b != .gt).Pairwise RelatedBefore := by
  have htext : ∀ a b, rankRelated a b = .eq → a.path.text = b.path.text := by
    intro a b heq
    rw [rankRelated, Ordering.then_eq_eq, Ordering.then_eq_eq] at heq
    exact Std.LawfulEqCmp.eq_of_compare heq.2.2
  exact (pairwise_lt_mergeSort (fun file : AnalyzedFile => file.path.text) htext
    (nodup_text AnalyzedFile.path h)).imp rankRelated_eq_lt_iff.mp

end SourceRetrieval
