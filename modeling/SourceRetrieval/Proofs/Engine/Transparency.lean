/-
Searching as if there were no cache.

* `Engine.freshAnswer` is the answer to a query of an engine that analyzes every
  file anew;
* `searchPlan_timeless` — an engine whose cache is faithful gives that answer, apart
  from what it says of the cache and of time;
* `answer_collectHits_eq_of_perm` — in whatever order the candidates are scored, the
  answer is the same.

Design notes: what a search finds is a function of the candidates of the walk,
each of which is a file as it stands.  The cache is carried along and stays
faithful.
-/
import SourceRetrieval.Proofs.Engine.Faithful
import SourceRetrieval.Proofs.Engine.Ranking
import SourceRetrieval.Proofs.Walk.Coverage

namespace SourceRetrieval

open MemoryTree SourceRetrieval.Path

/-- An answer without what it says of the cache and of time. -/
def RetrievalContext.timeless (context : RetrievalContext) : RetrievalContext :=
  { context with metadata := { context.metadata with cacheHits := 0, timeMs := 0 } }

/-- Notes on a search without those on the cache and on time. -/
def SearchMetadata.timeless (metadata : SearchMetadata) : SearchMetadata :=
  { metadata with cacheHits := 0, timeMs := 0 }

namespace Engine

variable {engine : Engine} {memory : MemoryTree}

/-! ### Candidates -/

/-- A candidate is a file as it stands, and not too large. -/
structure IsLoadable (memory : MemoryTree) (maxSize : Nat) (candidate : Candidate) : Prop where
  current : IsCurrent memory candidate.path candidate.modified candidate.size
  size_le : candidate.size ≤ maxSize

theorem isLoadable_of_filter? {walker : Walker} {path : Path} {candidate : Candidate}
    (hplain : path.IsPlain) (h : walker.filter? memory.tree path = some candidate) :
    IsLoadable memory walker.maxFileSize candidate := by
  obtain ⟨-, known, hknown, hdir, hsize, rfl⟩ := Walker.filter?_eq_some_iff.mp h
  exact ⟨isCurrent_of_stat hplain hknown hdir, hsize⟩

theorem isLoadable_of_admit? {walker : Walker} {path : Path} {candidate : Candidate}
    (hplain : path.IsPlain) (h : walker.admit? memory.tree path = some candidate) :
    IsLoadable memory walker.maxFileSize candidate := by
  rw [Walker.admit?] at h
  split at h
  · cases h
  · exact isLoadable_of_filter? hplain h

/-- A walk from a plain root yields files as they stand. -/
theorem isLoadable_of_mem_walk {walker : Walker} {candidate : Candidate}
    (hroot : walker.root.IsPlain) (h : candidate ∈ walker.walk memory.tree) :
    IsLoadable memory walker.maxFileSize candidate := by
  obtain ⟨steps, -, -, hleaf, hfilter⟩ := Walker.mem_walk_iff.mp h
  exact isLoadable_of_filter? (hroot.descend (wellFormed_of_holds hleaf.1)) hfilter

/-! ### What a search finds -/

/-- The analysis of a candidate. -/
def loaded? (engine : Engine) (tree : FileTree) (maxSize : Nat) (candidate : Candidate) :
    Option AnalyzedFile :=
  (engine.analyzeFile tree candidate.path candidate.size maxSize).toOption

/-- What is loaded of a candidate is the analysis of its file. -/
theorem analysisOf_of_loaded? {maxSize : Nat} {candidate : Candidate}
    (h : IsLoadable memory maxSize candidate) {analyzed : AnalyzedFile}
    (hloaded : engine.loaded? memory.tree maxSize candidate = some analyzed) :
    ∃ file, memory.file? candidate.path = some file
      ∧ engine.analysisOf candidate.path file.content = .ok analyzed := by
  obtain ⟨file, hfile, -, hanalyze⟩ := @analyzeFile_eq engine memory _ _ _ maxSize h.current
  refine ⟨file, hfile, ?_⟩
  rw [loaded?, hanalyze, if_neg (Nat.not_lt.mpr h.size_le)] at hloaded
  cases hresult : engine.analysisOf candidate.path file.content with
  | error failure =>
    rw [hresult] at hloaded
    cases hloaded
  | ok result =>
    rw [hresult] at hloaded
    cases hloaded
    rfl

/-- The hit that a file makes. -/
def hit? (engine : Engine) (plan : QueryPlan) (options : ResolvedOptions) (file : AnalyzedFile) :
    Option Hit :=
  let scored := Ranking.scoreFile engine.weights options.fuzzyThreshold plan file
  if engine.isWorthwhile scored then some ⟨file, scored⟩ else none

/-- The answer to a query when every file is analyzed anew. -/
def freshAnswer (engine : Engine) (tree : FileTree) (plan : QueryPlan)
    (options : ResolvedOptions) : RetrievalContext :=
  let files := ((engine.walker options).walk tree).filterMap
    (engine.loaded? tree options.maxFileSize)
  answer options
    { SearchMetadata.begin plan.query plan.kind options with totalFilesScanned := files.length }
    (files.filterMap (engine.hit? plan options))

variable {plan : QueryPlan} {options : ResolvedOptions}

theorem scoreCandidate_eq (engine : Engine) (tree : FileTree) (plan : QueryPlan)
    (options : ResolvedOptions) (candidate : Candidate) (session : Session) :
    engine.scoreCandidate tree plan options candidate session =
      ((engine.loadCandidate tree options.maxFileSize candidate session).1.bind
          (engine.hit? plan options),
        (engine.loadCandidate tree options.maxFileSize candidate session).2) := by
  rw [scoreCandidate, work_bind]
  cases (engine.loadCandidate tree options.maxFileSize candidate session).1 <;> rfl

theorem collectHits_cons (engine : Engine) (tree : FileTree) (plan : QueryPlan)
    (options : ResolvedOptions) (candidate : Candidate) (rest : List Candidate)
    (session : Session) :
    engine.collectHits tree plan options (candidate :: rest) session =
      let load := engine.loadCandidate tree options.maxFileSize candidate session
      let others := engine.collectHits tree plan options rest load.2
      ((load.1.bind (engine.hit? plan options)).toList ++ others.1, others.2) := by
  rw [collectHits, work_bind, scoreCandidate_eq]
  rfl

theorem filterMap_cons_eq_append {α β : Type} (f : α → Option β) (x : α) (rest : List α) :
    (x :: rest).filterMap f = (f x).toList ++ rest.filterMap f := by
  rw [List.filterMap_cons]
  cases f x <;> rfl

theorem filterMap_toList_append {α β : Type} (f : α → Option β) (x? : Option α) (rest : List α) :
    (x?.toList ++ rest).filterMap f = (x?.bind f).toList ++ rest.filterMap f := by
  cases x? with
  | none => rfl
  | some x => exact filterMap_cons_eq_append f x rest

/-- The hits among candidates are those among the files that they are. -/
theorem collectHits_spec {candidates : List Candidate}
    (hcandidates : ∀ c ∈ candidates, IsLoadable memory options.maxFileSize c) {session : Session}
    (htrusts : engine.Trusts memory session.cache) :
    let files := candidates.filterMap (engine.loaded? memory.tree options.maxFileSize)
    let result := engine.collectHits memory.tree plan options candidates session
    engine.Trusts memory result.2.cache ∧ result.1 = files.filterMap (engine.hit? plan options)
      ∧ result.2.scanned = session.scanned + files.length := by
  induction candidates generalizing session with
  | nil => exact ⟨htrusts, rfl, rfl⟩
  | cons candidate rest ih =>
    have hcandidate := hcandidates candidate List.mem_cons_self
    obtain ⟨hkeeps, hloaded, hscanned⟩ :=
      loadCandidate_spec hcandidate.current hcandidate.size_le htrusts
    obtain ⟨hkeeps', hhits, hscanned'⟩ :=
      ih (fun c hc => hcandidates c (List.mem_cons_of_mem _ hc)) hkeeps
    -- The rest is loaded with the cache that the first candidate leaves.
    rw [collectHits_cons, filterMap_cons_eq_append]
    refine ⟨hkeeps', ?_, ?_⟩
    · rw [filterMap_toList_append, ← hhits, loaded?, ← hloaded]
    · rw [List.length_append, ← Nat.add_assoc, loaded?, ← hscanned]
      exact hscanned'

/-! ### The order of the candidates -/

theorem path_of_analyzeFile {tree : FileTree} {path : Path} {size maxSize : Nat}
    {file : AnalyzedFile} (h : engine.analyzeFile tree path size maxSize = .ok file) :
    file.path = path := by
  rw [analyzeFile_eq_analysisOf] at h
  split at h
  · cases h
  · split at h
    · cases h
    · split at h
      · cases h
      · exact path_of_analysisOf h

theorem path_of_loaded? {tree : FileTree} {maxSize : Nat} {candidate : Candidate}
    {file : AnalyzedFile} (h : engine.loaded? tree maxSize candidate = some file) :
    file.path = candidate.path := by
  rw [loaded?] at h
  cases hanalyze : engine.analyzeFile tree candidate.path candidate.size maxSize with
  | error failure =>
    rw [hanalyze] at h
    cases h
  | ok analyzed =>
    rw [hanalyze] at h
    rw [← Option.some_inj.mp h]
    exact path_of_analyzeFile hanalyze

theorem file_of_hit? {file : AnalyzedFile} {hit : Hit}
    (h : engine.hit? plan options file = some hit) : hit.file = file := by
  simp only [hit?] at h
  split at h
  · rw [← Option.some_inj.mp h]
  · cases h

/-- No two hits of a walk have the same components. -/
theorem nodup_components_hits (engine : Engine) (memory : MemoryTree) (plan : QueryPlan)
    (options : ResolvedOptions) (walker : Walker) :
    ((((walker.walk memory.tree).filterMap (engine.loaded? memory.tree options.maxFileSize)).filterMap
      (engine.hit? plan options)).map fun hit => hit.file.path.components).Nodup := by
  have hwalk := Walker.pairwise_emit walker memory walker.root []
  rw [← Walker.walk_eq_emit] at hwalk
  rw [List.Nodup, List.pairwise_map, List.filterMap_filterMap]
  refine List.pairwise_filterMap.mpr (hwalk.imp ?_)
  intro candidate candidate' hne hit hhit hit' hhit' hsame
  obtain ⟨file, hfile, hhit⟩ := Option.bind_eq_some_iff.mp hhit
  obtain ⟨file', hfile', hhit'⟩ := Option.bind_eq_some_iff.mp hhit'
  rw [file_of_hit? hhit, file_of_hit? hhit', path_of_loaded? hfile, path_of_loaded? hfile'] at hsame
  exact hne hsame

/-- No two hits of a walk have the same path. -/
theorem nodup_pathTexts_hits (engine : Engine) (memory : MemoryTree) (plan : QueryPlan)
    (options : ResolvedOptions) (walker : Walker) :
    (pathTexts (((walker.walk memory.tree).filterMap
      (engine.loaded? memory.tree options.maxFileSize)).filterMap
        (engine.hit? plan options))).Nodup :=
  nodup_text (fun hit : Hit => hit.file.path)
    (nodup_components_hits engine memory plan options walker)

/-- In whatever order the candidates of a walk are scored, they make the same answer. -/
theorem answer_collectHits_eq_of_perm (hroot : engine.root.IsPlain) {candidates : List Candidate}
    (hperm : candidates.Perm ((engine.walker options).walk memory.tree)) {session : Session}
    (htrusts : engine.Trusts memory session.cache) (metadata : SearchMetadata) :
    let found := engine.collectHits memory.tree plan options candidates session
    let found' := engine.collectHits memory.tree plan options
      ((engine.walker options).walk memory.tree) session
    answer options metadata found.1 = answer options metadata found'.1
      ∧ found.2.scanned = found'.2.scanned := by
  have hwalk : ∀ c ∈ (engine.walker options).walk memory.tree,
      IsLoadable memory options.maxFileSize c := fun c hc =>
    @isLoadable_of_mem_walk memory (engine.walker options) c hroot hc
  obtain ⟨-, hhits, hscanned⟩ := @collectHits_spec engine memory plan options candidates
    (fun c hc => hwalk c (hperm.mem_iff.mp hc)) session htrusts
  obtain ⟨-, hhits', hscanned'⟩ := @collectHits_spec engine memory plan options _ hwalk session
    htrusts
  have hfiles := hperm.filterMap (engine.loaded? memory.tree options.maxFileSize)
  refine ⟨?_, by rw [hscanned, hscanned', hfiles.length_eq]⟩
  rw [hhits, hhits']
  exact answer_eq_of_perm (nodup_pathTexts_hits engine memory plan options _)
    (hfiles.filterMap _) options metadata

/-! ### The answer -/

theorem withLanguages_timeless (metadata : SearchMetadata) (files : List AnalyzedFile) :
    (metadata.withLanguages files).timeless = metadata.timeless.withLanguages files := by
  rw [SearchMetadata.withLanguages, SearchMetadata.withLanguages]
  change _ = if metadata.includedLanguages.isEmpty then _ else _
  split <;> rfl

/-- What an answer says of the cache and of time does not matter to the rest. -/
theorem answer_timeless (options : ResolvedOptions) (hits : List Hit)
    {metadata metadata' : SearchMetadata} (h : metadata.timeless = metadata'.timeless) :
    (answer options metadata hits).timeless = (answer options metadata' hits).timeless := by
  have hanswer : ∀ m : SearchMetadata,
      (answer options m hits).timeless = answer options m.timeless hits := by
    intro m
    change RetrievalContext.mk _ _ _ (m.withLanguages (hits.map (·.file))).timeless = _
    rw [withLanguages_timeless]
    rfl
  rw [hanswer, hanswer, h]

theorem searchPlan_eq (engine : Engine) (tree : FileTree) (plan : QueryPlan)
    (options : ResolvedOptions) (cancelled : Bool) (session : Session) :
    engine.searchPlan tree plan options cancelled session =
      let candidates := (engine.walker options).walk tree
      let found := engine.collectHits tree plan options (if cancelled then [] else candidates)
        session
      (answer options
        { SearchMetadata.begin plan.query plan.kind options with
          totalFilesScanned := found.2.scanned
          cacheHits := found.2.cacheHits
          timedOut := cancelled && !candidates.isEmpty } found.1, found.2) := rfl

theorem isLoadable_of_mem_walk_of_options (hroot : engine.root.IsPlain) (options : ResolvedOptions)
    (cancelled : Bool) : ∀ c ∈ (if cancelled then [] else (engine.walker options).walk memory.tree),
      IsLoadable memory options.maxFileSize c := by
  intro c hc
  split at hc
  · exact absurd hc List.not_mem_nil
  · exact @isLoadable_of_mem_walk memory (engine.walker options) c hroot hc

/-- A search keeps the cache faithful. -/
theorem trusts_searchPlan (hroot : engine.root.IsPlain) (plan : QueryPlan)
    (options : ResolvedOptions) (cancelled : Bool) {session : Session}
    (htrusts : engine.Trusts memory session.cache) :
    engine.Trusts memory
      (engine.searchPlan memory.tree plan options cancelled session).2.cache := by
  rw [searchPlan_eq]
  exact (collectHits_spec (isLoadable_of_mem_walk_of_options hroot options cancelled) htrusts).1

/-- An engine whose cache is faithful answers as if every file were analyzed anew. -/
theorem searchPlan_timeless (hroot : engine.root.IsPlain) (plan : QueryPlan)
    (options : ResolvedOptions) {session : Session} (hscanned : session.scanned = 0)
    (htrusts : engine.Trusts memory session.cache) :
    (engine.searchPlan memory.tree plan options false session).1.timeless
      = (engine.freshAnswer memory.tree plan options).timeless := by
  obtain ⟨-, hhits, hcount⟩ := @collectHits_spec engine memory plan options _
    (isLoadable_of_mem_walk_of_options hroot options false) session htrusts
  rw [searchPlan_eq, freshAnswer]
  simp only [hhits, hcount, hscanned, Nat.zero_add]
  -- Hits and count agree now, and the notes differ in what they say of the cache alone.
  exact answer_timeless options _ rfl

end Engine

end SourceRetrieval
