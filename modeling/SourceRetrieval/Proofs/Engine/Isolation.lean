/-
What one file means to the answers about the others.

A file that is no ignore file and lies below no other is taken away, and the same
query is put to a fresh engine.

* `search_of_fresh` — a fresh engine analyzes every file it looks at anew, so the cache
  serves it nothing;
* `loadedFiles_remove_perm`, `rankedFiles_remove` — the other files are found as they
  were and ranked in the same order;
* `search_isolated` — so the file may be missing from the answer, and nothing else
  changes; an answer that the file has no part in is the same.

Design notes: what a search loads is a function of the candidates of the walk, one
by one.  A hit is made of one file, so to leave a file out is to filter the hits, and
to filter them before they are ranked is to filter them afterwards.
-/
import SourceRetrieval.Proofs.Engine.Runs
import SourceRetrieval.Proofs.Walk.Removal

namespace SourceRetrieval.Engine

open MemoryTree SourceRetrieval.Path

variable {engine : Engine} {memory : MemoryTree} {tree : FileTree} {gone : Path}
  {plan : QueryPlan} {options : ResolvedOptions} {maxSize : Nat}

/-! ### A fresh engine -/

/-- No entry of the cache is of the path. -/
def Unseen (cache : AnalysisCache) (path : Path) : Prop :=
  ∀ entry ∈ cache.entries, entry.path.components ≠ path.components

theorem Unseen.get_eq_none {cache : AnalysisCache} {path : Path} (h : Unseen cache path)
    (modified size : Nat) : (cache.get path modified size).1 = none := by
  refine Option.eq_none_iff_forall_ne_some.mpr fun file hserved => ?_
  obtain ⟨entry, hentry, hpath, -⟩ := AnalysisCache.exists_of_get hserved
  exact h entry hentry hpath

/-- A candidate of which there is no entry is not served by the cache, and of no other path an
entry is made. -/
theorem loadCandidate_of_unseen {candidate : Candidate} {session : Session}
    (hunseen : Unseen session.cache candidate.path) :
    let after := (engine.loadCandidate tree maxSize candidate session).2
    after.cacheHits = session.cacheHits
      ∧ ∀ path : Path, path.components ≠ candidate.path.components →
        Unseen session.cache path → Unseen after.cache path := by
  have hmiss : (session.cache.get candidate.path candidate.modified candidate.size).1 = none :=
    hunseen.get_eq_none _ _
  simp only [loadCandidate, work_bind, loadKnown_eq, hmiss, loadFresh_eq]
  cases engine.analyzeFile tree candidate.path candidate.size maxSize with
  | error failure =>
    exact ⟨rfl, fun path _ hpath entry hentry => hpath entry (AnalysisCache.mem_of_mem_get hentry)⟩
  | ok file =>
    refine ⟨rfl, fun path hother hpath entry hentry => ?_⟩
    rcases AnalysisCache.mem_of_mem_insert hentry with rfl | hentry
    · exact hother.symm
    · exact hpath entry (AnalysisCache.mem_of_mem_get hentry)

/-- Of different candidates of which there are no entries none is served by the cache. -/
theorem cacheHits_collectHits {candidates : List Candidate}
    (hdistinct : candidates.Pairwise fun a b => a.path.components ≠ b.path.components)
    {session : Session} (hunseen : ∀ c ∈ candidates, Unseen session.cache c.path) :
    (engine.collectHits tree plan options candidates session).2.cacheHits = session.cacheHits := by
  induction candidates generalizing session with
  | nil => rfl
  | cons candidate rest ih =>
    obtain ⟨hfirst, hrest⟩ := List.pairwise_cons.mp hdistinct
    obtain ⟨hhits, hkeeps⟩ := @loadCandidate_of_unseen engine tree options.maxFileSize candidate
      session (hunseen candidate List.mem_cons_self)
    have hothers : ∀ c ∈ rest, Unseen _ c.path := fun c hc =>
      hkeeps c.path (hfirst c hc).symm (hunseen c (List.mem_cons_of_mem _ hc))
    rw [collectHits_cons, ih hrest hothers, hhits]

/-- The files that a search looks at. -/
def loadedFiles (engine : Engine) (tree : FileTree) (options : ResolvedOptions) :
    List AnalyzedFile :=
  ((engine.walker options).walk tree).filterMap (engine.loaded? tree options.maxFileSize)

/-- The files that a query finds, in the order of an answer. -/
def rankedFiles (engine : Engine) (tree : FileTree) (query : String) (options : SearchOptions) :
    List AnalyzedFile :=
  let plan := QueryPlan.make query options.kind
  let resolved := options.resolve engine.config plan.kind
  if plan.isEmpty then []
  else
    let candidates := (engine.walker resolved).walk tree
    let hits := (engine.collectHits tree plan resolved candidates { cache := engine.cache }).1
    (rankHits hits).map (·.toFile resolved.contextWindow)

/-- An answer holds the first ones of the files that a query finds. -/
theorem files_search (engine : Engine) (tree : FileTree) (query : String)
    (options : SearchOptions) :
    (engine.search tree query options false).1.files
      = (engine.rankedFiles tree query options).take
        (options.resolve engine.config (QueryPlan.make query options.kind).kind).maxFiles := by
  rw [search, rankedFiles]
  split
  · exact List.take_nil.symm
  · exact List.map_take

section Fresh

variable (hroot : engine.root.IsPlain) (hfresh : engine.cache.entries = [])

include hroot hfresh

theorem collectHits_of_fresh :
    let candidates := (engine.walker options).walk memory.tree
    let found := engine.collectHits memory.tree plan options candidates { cache := engine.cache }
    found.1 = (engine.loadedFiles memory.tree options).filterMap (engine.hit? plan options)
      ∧ found.2.scanned = (engine.loadedFiles memory.tree options).length
      ∧ found.2.cacheHits = 0 := by
  intro candidates found
  have htrusts : engine.Trusts memory engine.cache := by
    rw [Trusts, hfresh]
    nofun
  obtain ⟨-, hhits, hscanned⟩ := @collectHits_spec engine memory plan options candidates
    (fun c hc => @isLoadable_of_mem_walk memory (engine.walker options) c hroot hc)
    { cache := engine.cache } htrusts
  refine ⟨hhits, hscanned.trans (Nat.zero_add _), ?_⟩
  refine cacheHits_collectHits (Walker.pairwise_walk _ _) fun c _ entry hentry => ?_
  rw [hfresh] at hentry
  exact absurd hentry List.not_mem_nil

/-- What a fresh engine finds are the hits among the files it looks at. -/
theorem rankedFiles_of_fresh (query : String) (options : SearchOptions) :
    engine.rankedFiles memory.tree query options =
      let plan := QueryPlan.make query options.kind
      let resolved := options.resolve engine.config plan.kind
      if plan.isEmpty then []
      else (rankHits ((engine.loadedFiles memory.tree resolved).filterMap
        (engine.hit? plan resolved))).map (·.toFile resolved.contextWindow) := by
  simp only [rankedFiles, (collectHits_of_fresh hroot hfresh).1]

/-- A fresh engine answers just as one that analyzes every file anew. -/
theorem search_of_fresh (query : String) (options : SearchOptions) :
    (engine.search memory.tree query options false).1
      = engine.freshSearch memory.tree query options := by
  rw [search, freshSearch]
  split
  · rfl
  · obtain ⟨hhits, hscanned, hserved⟩ := @collectHits_of_fresh engine memory
      (QueryPlan.make query options.kind)
      (options.resolve engine.config (QueryPlan.make query options.kind).kind) hroot hfresh
    rw [fst_run, searchPlan_eq, freshAnswer]
    simp only [Bool.false_eq_true, if_false, hhits, hscanned, hserved, Bool.false_and]
    rfl

end Fresh

/-! ### One file less -/

section Removal

variable (hrules : ¬Walker.IsIgnoreFile engine.root gone)
  (hlone : ∀ cs next rest, memory.Holds cs → gone.components ≠ cs ++ next :: rest)

/-- Another candidate is analyzed as it was. -/
theorem loaded?_remove_of_ne {candidate : Candidate}
    (h : candidate.path.components ≠ gone.components) :
    engine.loaded? (memory.remove gone).1.tree maxSize candidate
      = engine.loaded? memory.tree maxSize candidate := by
  rw [loaded?, loaded?, analyzeFile_eq_analysisOf, analyzeFile_eq_analysisOf, read_remove_of_ne h]

include hrules hlone

/-- The other files are looked at as they were. -/
theorem loadedFiles_remove_perm :
    (engine.loadedFiles (memory.remove gone).1.tree options).Perm
      ((engine.loadedFiles memory.tree options).filter
        fun file => file.path.components ≠ gone.components) := by
  have hperm :=
    (@Walker.walk_remove_perm (engine.walker options) memory gone hrules hlone).filterMap
      (engine.loaded? (memory.remove gone).1.tree options.maxFileSize)
  refine hperm.trans (List.Perm.of_eq ?_)
  rw [loadedFiles, List.filter_filterMap, List.filterMap_filter]
  refine List.filterMap_congr fun c _ => ?_
  by_cases hgone : c.path.components = gone.components
  · -- What is loaded of the file taken away has its path, so it is left out on both sides.
    rw [if_neg (by simpa using hgone)]
    refine (Option.filter_eq_none_iff.mpr fun file hfile => ?_).symm
    rw [path_of_loaded? hfile]
    simpa using hgone
  · rw [if_pos (by simpa using hgone), loaded?_remove_of_ne hgone]
    cases hfile : engine.loaded? memory.tree options.maxFileSize c with
    | none => rfl
    | some file =>
      rw [Option.filter_some, if_pos]
      rw [path_of_loaded? hfile]
      simpa using hgone

/-- The other hits are found as they were. -/
theorem hits_remove_perm :
    ((engine.loadedFiles (memory.remove gone).1.tree options).filterMap
        (engine.hit? plan options)).Perm
      (((engine.loadedFiles memory.tree options).filterMap (engine.hit? plan options)).filter
        fun hit => hit.file.path.components ≠ gone.components) := by
  refine ((loadedFiles_remove_perm hrules hlone).filterMap _).trans (List.Perm.of_eq ?_)
  rw [List.filter_filterMap, List.filterMap_filter]
  refine List.filterMap_congr fun file _ => ?_
  cases hhit : engine.hit? plan options file with
  | none => split <;> rfl
  | some hit => rw [Option.filter_some, file_of_hit? hhit]

/-- Without the file the hits are ranked as they were. -/
theorem rankHits_remove :
    rankHits ((engine.loadedFiles (memory.remove gone).1.tree options).filterMap
        (engine.hit? plan options))
      = (rankHits ((engine.loadedFiles memory.tree options).filterMap
        (engine.hit? plan options))).filter
          fun hit => hit.file.path.components ≠ gone.components := by
  have hnodup := nodup_pathTexts_hits engine memory plan options (engine.walker options)
  have hfiltered := hnodup.sublist ((List.filter_sublist
    (p := fun hit => decide (hit.file.path.components ≠ gone.components))).map _)
  refine (rankHits_eq_of_perm hfiltered (hits_remove_perm hrules hlone)).trans ?_
  refine mergeSort_compare_filter _ fun a ha b hb heq => ?_
  exact List.inj_on_of_nodup_map hnodup ha hb (Hit.text_eq_of_rank_eq heq)

end Removal

/-- The files found by a query without a file are those found with it, the file itself taken
out. -/
theorem rankedFiles_remove (hroot : engine.root.IsPlain) (hfresh : engine.cache.entries = [])
    (hrules : ¬Walker.IsIgnoreFile engine.root gone)
    (hlone : ∀ cs next rest, memory.Holds cs → gone.components ≠ cs ++ next :: rest)
    (query : String) (options : SearchOptions) :
    ∃ front entry back,
      engine.rankedFiles memory.tree query options = front ++ Option.toList entry ++ back
        ∧ engine.rankedFiles (memory.remove gone).1.tree query options = front ++ back
        ∧ ∀ file ∈ entry, file.path.components = gone.components := by
  rw [rankedFiles_of_fresh hroot hfresh, rankedFiles_of_fresh hroot hfresh]
  extract_lets plan resolved
  split
  · exact ⟨[], none, [], rfl, rfl, by nofun⟩
  · -- Hits have different paths, so at most one is of the file.
    have hnodup := ((perm_rankHits _).map fun hit : Hit => hit.file.path.components).nodup_iff.mpr
      (nodup_components_hits engine memory plan resolved (engine.walker resolved))
    obtain ⟨front, entry, back, hsplit, hfilter, hentry⟩ :=
      exists_split_of_nodup (fun hit : Hit => hit.file.path.components) gone.components hnodup
    refine ⟨front.map (·.toFile resolved.contextWindow),
      entry.map (·.toFile resolved.contextWindow), back.map (·.toFile resolved.contextWindow),
      ?_, ?_, ?_⟩
    · rw [loadedFiles, hsplit]
      simp only [List.map_append, Option.toList_map]
    · rw [rankHits_remove hrules hlone, loadedFiles, hfilter, List.map_append]
    · intro file hfile
      obtain ⟨hit, hhit, rfl⟩ := Option.map_eq_some_iff.mp hfile
      exact hentry hit hhit

/-! ### Files that have no part in an answer -/

/-- The file is not yielded by the walk, or may not be read, or is not text. -/
def IsHidden (walker : Walker) (memory : MemoryTree) (file : MemoryFile) : Prop :=
  (∀ c ∈ walker.walk memory.tree, c.path.components ≠ file.path.components)
    ∨ memory.Denies file.path.components
    ∨ looksBinary (file.content.extract 0 sniffLength).toList = true
    ∨ Text.decode? file.content = none

theorem ne_ok_of_not_text {path : Path} {bytes : ByteArray}
    (h : looksBinary (bytes.extract 0 sniffLength).toList = true ∨ Text.decode? bytes = none)
    (file : AnalyzedFile) : engine.analysisOf path bytes ≠ .ok file := by
  have hdecode : ∃ failure, decodeContent path.text bytes = .error failure := by
    rw [decodeContent]
    split
    · exact ⟨_, rfl⟩
    next hbinary =>
      rw [h.resolve_left hbinary]
      exact ⟨_, rfl⟩
  obtain ⟨failure, hfailure⟩ := hdecode
  rw [analysisOf, hfailure]
  intro hok
  cases hok

/-- A hidden file is none of those that a search looks at. -/
theorem ne_of_mem_loadedFiles (hroot : engine.root.IsPlain) {file : MemoryFile}
    (hfile : file ∈ memory.files) (hhidden : IsHidden (engine.walker options) memory file)
    {loaded : AnalyzedFile} (hloaded : loaded ∈ engine.loadedFiles memory.tree options) :
    loaded.path.components ≠ file.path.components := by
  intro hsame
  obtain ⟨c, hc, hanalysis⟩ := List.mem_filterMap.mp hloaded
  rw [path_of_loaded? hanalysis] at hsame
  have hloadable : IsLoadable memory options.maxFileSize c :=
    @isLoadable_of_mem_walk memory (engine.walker options) c hroot hc
  obtain hunyielded | hdenied | hnotText := hhidden
  · exact hunyielded c hc hsame
  · exact hloadable.current.allowed (hsame ▸ hdenied)
  · obtain ⟨stored, hstored, hanalysis⟩ := analysisOf_of_loaded? hloadable hanalysis
    obtain rfl : file = stored := by
      rw [file?_congr hsame, file?_eq_some_iff.mpr ⟨hfile, rfl⟩] at hstored
      exact Option.some_inj.mp hstored
    exact ne_ok_of_not_text hnotText loaded hanalysis

/-- Answers made of the same files are the same. -/
theorem freshAnswer_eq_of_perm {memory' : MemoryTree}
    (hperm : (engine.loadedFiles memory'.tree options).Perm
      (engine.loadedFiles memory.tree options)) :
    engine.freshAnswer memory'.tree plan options = engine.freshAnswer memory.tree plan options := by
  rw [loadedFiles, loadedFiles] at hperm
  rw [freshAnswer, freshAnswer]
  simp only [hperm.length_eq]
  exact answer_eq_of_perm (nodup_pathTexts_hits engine memory plan options _)
    (hperm.filterMap _) options _

/-- A file in memory that is no ignore file and lies below no other is taken away.  The files that
a query finds are the same and come in the same order, the file itself left out if it was among
them, and an answer holds the first ones of them.  If the file is not yielded by the walk, may
not be read or is not text, the answer as a whole is the same. -/
theorem search_isolated (config : Config) (rules : RuleRegistry) (weights : Weights)
    (globs : GlobLibrary) (root : Path) (memory : MemoryTree) {file : MemoryFile}
    (hfile : file ∈ memory.files)
    (hrules : ¬Walker.IsIgnoreFile root.normalize file.path)
    (hlone : ∀ other ∈ memory.files, ∀ next rest,
      file.path.components ≠ other.path.components ++ next :: rest)
    (query : String) (options : SearchOptions) :
    let engine := start config rules weights globs root
    let without := (memory.remove file.path).1
    let resolved := options.resolve config (QueryPlan.make query options.kind).kind
    (∃ front entry back,
      engine.rankedFiles memory.tree query options = front ++ Option.toList entry ++ back
        ∧ engine.rankedFiles without.tree query options = front ++ back
        ∧ ∀ found ∈ entry, found.path.components = file.path.components)
    ∧ (∀ tree, (engine.search tree query options false).1.files
      = (engine.rankedFiles tree query options).take resolved.maxFiles)
    ∧ (IsHidden (engine.walker resolved) memory file →
      (engine.search without.tree query options false).1
        = (engine.search memory.tree query options false).1) := by
  intro engine without resolved
  have hroot : engine.root.IsPlain := isPlain_normalize root
  have hlone : ∀ cs next rest, memory.Holds cs → file.path.components ≠ cs ++ next :: rest := by
    rintro cs next rest ⟨other, hother, rfl⟩
    exact hlone other hother next rest
  refine ⟨rankedFiles_remove hroot rfl hrules hlone query options,
    fun tree => files_search engine tree query options, fun hhidden => ?_⟩
  have hothers : (engine.loadedFiles memory.tree resolved).filter
      (fun loaded => loaded.path.components ≠ file.path.components)
        = engine.loadedFiles memory.tree resolved :=
    List.filter_eq_self.mpr fun loaded hloaded =>
      decide_eq_true (ne_of_mem_loadedFiles hroot hfile hhidden hloaded)
  have hperm : (engine.loadedFiles without.tree resolved).Perm
      (engine.loadedFiles memory.tree resolved) := by
    rw [← hothers]
    exact loadedFiles_remove_perm hrules hlone
  rw [search_of_fresh hroot rfl, search_of_fresh hroot rfl, freshSearch, freshSearch]
  split
  · rfl
  · exact freshAnswer_eq_of_perm hperm

/-- A file of one zero byte, which is no text. -/
def zeroByte : MemoryFile := ⟨⟨"/w/b.ts"⟩, ⟨#[0]⟩, timeOf 2⟩

/-- A text beside the zero byte. -/
def textAndZeroByte : MemoryTree :=
  ((default : MemoryTree).add ⟨"/w/a.ts"⟩ "export const alpha = 1;\n".toUTF8).add
    zeroByte.path zeroByte.content

/-- Whether the zero byte is there or not, the text is found. -/
theorem search_isolated_zeroByte :
    zeroByte ∈ textAndZeroByte.files
      ∧ ¬Walker.IsIgnoreFile (Path.normalize ⟨"/w"⟩) zeroByte.path
      ∧ (∀ other ∈ textAndZeroByte.files, ∀ next rest,
        zeroByte.path.components ≠ other.path.components ++ next :: rest)
      ∧ looksBinary (zeroByte.content.extract 0 sniffLength).toList = true
      ∧ ((start {} .empty {} .standard ⟨"/w"⟩).search
          (textAndZeroByte.remove zeroByte.path).1.tree "alpha" {} false).1
        = ((start {} .empty {} .standard ⟨"/w"⟩).search textAndZeroByte.tree "alpha" {}
          false).1 := by
  have hmem : zeroByte ∈ textAndZeroByte.files := .tail _ (.head _)
  have hrules : ¬Walker.IsIgnoreFile (Path.normalize ⟨"/w"⟩) zeroByte.path := by
    unfold Walker.IsIgnoreFile
    decide
  have hdepth : ∀ path ∈ textAndZeroByte.files.map (·.path), path.components.length = 3 := by
    decide
  have hlone : ∀ other ∈ textAndZeroByte.files, ∀ next rest,
      zeroByte.path.components ≠ other.path.components ++ next :: rest := by
    intro other hother next rest hbelow
    exact (isLeaf_of_length hdepth ⟨other, hother, rfl⟩).2 next rest ⟨zeroByte, hmem, hbelow⟩
  have hbinary : looksBinary (zeroByte.content.extract 0 sniffLength).toList = true := by
    decide +kernel
  exact ⟨hmem, hrules, hlone, hbinary, (search_isolated {} .empty {} .standard ⟨"/w"⟩
    textAndZeroByte hmem hrules hlone "alpha" {}).2.2 (.inr (.inr (.inl hbinary)))⟩

end SourceRetrieval.Engine
