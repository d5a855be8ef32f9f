/-
A query that is put twice in a row.

* `loadCandidate_cases` — all that loading a candidate can do to a session;
* `Settles` — the cache holds a candidate in front, or has no entry of it, and goes on so
  while others are loaded (`Settles.collectHits`);
* `collectHits_settles` — so after a search each candidate is served that could be loaded,
  if the cache has room for as many;
* `collectHits_of_served` — a search among such candidates takes all of them from the cache;
* `collectHits_again` — in whatever orders two searches look at the same candidates, the second
  one takes from the cache what it finds, and finds the same;
* `holdsOwn_run` — whatever is done, each entry of the cache holds a file of its own path;
* `repeats_calls` — so the same query is answered from the cache, and alike.

Design notes: nothing is asked of the cache that the first search finds.  What a search looks
at stands in front of what was there before, and no candidate comes twice, so as long as
there is room only entries from before are dropped.  The order of the candidates shows only
among hits that tie, and hits of different paths do not.
-/
import SourceRetrieval.Proofs.Cache.Residence
import SourceRetrieval.Proofs.Engine.Isolation

namespace SourceRetrieval

/-- The entry is of the candidate as it stands. -/
structure CacheEntry.IsOf (entry : CacheEntry) (candidate : Candidate) : Prop where
  path_eq : entry.path.components = candidate.path.components
  modified_eq : entry.modified = candidate.modified
  size_eq : entry.size = candidate.size

/-- What the cache serves of a candidate. -/
def AnalysisCache.served? (cache : AnalysisCache) (candidate : Candidate) : Option AnalyzedFile :=
  (cache.get candidate.path candidate.modified candidate.size).1

/-- Every entry holds a file of its own path. -/
def AnalysisCache.HoldsOwn (cache : AnalysisCache) : Prop :=
  ∀ entry ∈ cache.entries, entry.file.path.components = entry.path.components

theorem AnalysisCache.HoldsOwn.of_subset {cache after : AnalysisCache} (h : cache.HoldsOwn)
    (hsubset : ∀ entry ∈ after.entries, entry ∈ cache.entries) : after.HoldsOwn :=
  fun entry hentry => h entry (hsubset entry hentry)

namespace Engine

open AnalysisCache

/-- The cache holds an entry of a candidate behind fewer than were looked at, or it has none. -/
inductive Settles (session : Session) (candidate : Candidate) : Option AnalyzedFile → Prop where
  | held {entry : CacheEntry} (hof : entry.IsOf candidate)
    (hleads : session.cache.Leads session.scanned entry) :
    Settles session candidate (some entry.file)
  | unseen (h : Unseen session.cache candidate.path) : Settles session candidate none

variable {engine : Engine} {tree : FileTree} {maxSize : Nat} {plan : QueryPlan}
  {options : ResolvedOptions} {candidate other : Candidate}
  {candidates : List Candidate} {session : Session} {loaded : Option AnalyzedFile}

theorem Settles.served?_eq (h : Settles session candidate loaded)
    (henabled : session.cache.isEnabled = true) : session.cache.served? candidate = loaded := by
  cases h with
  | held hof hleads =>
    rw [served?, ← hof.modified_eq, ← hof.size_eq]
    exact hleads.get_eq henabled hof.path_eq
  | unseen h => exact h.get_eq_none _ _

/-! ### One candidate -/

/-- The session after the cache has been asked for a candidate. -/
def askedFor (session : Session) (candidate : Candidate) : Session :=
  asked session candidate.path candidate.modified candidate.size

theorem loadCandidate_of_served {file : AnalyzedFile}
    (h : session.cache.served? candidate = some file) :
    engine.loadCandidate tree maxSize candidate session
      = (some file, (record true (askedFor session candidate)).2) := by
  rw [served?] at h
  simp only [loadCandidate, work_bind, loadKnown_eq, h]
  rfl

theorem loadCandidate_of_not_served (h : session.cache.served? candidate = none) :
    engine.loadCandidate tree maxSize candidate session =
      let session := askedFor session candidate
      match engine.loaded? tree maxSize candidate with
      | none => (none, session)
      | some file =>
        let cache := session.cache.insert candidate.path candidate.modified candidate.size file
        (some file, (record false { session with cache := cache }).2) := by
  rw [served?] at h
  simp only [loadCandidate, work_bind, loadKnown_eq, h, loadFresh_eq, loaded?]
  cases engine.analyzeFile tree candidate.path candidate.size maxSize <;> rfl

/-- All that loading a candidate can do to a session with a cache that is switched on: an entry of
the candidate is put in front, be it from the cache or anew, or there is none of it any more. -/
theorem loadCandidate_cases (engine : Engine) (tree : FileTree) (maxSize : Nat)
    (candidate : Candidate) (henabled : session.cache.isEnabled = true) :
    let result := engine.loadCandidate tree maxSize candidate session
    result.2.cache.capacity = session.cache.capacity
      ∧ ((∃ entry : CacheEntry, entry.IsOf candidate ∧ result.1 = some entry.file
          ∧ result.2.scanned = session.scanned + 1
          ∧ ∃ room, session.cache.capacity ≤ room
            ∧ result.2.cache.entries = (entry :: session.cache.others candidate.path).take room)
        ∨ (engine.loaded? tree maxSize candidate = none ∧ result.1 = none
          ∧ result.2.scanned = session.scanned
          ∧ result.2.cache.entries = session.cache.others candidate.path)) := by
  intro result
  have hcapacity : (askedFor session candidate).cache.capacity = session.cache.capacity :=
    capacity_get _ _ _ _
  cases hserved : session.cache.served? candidate with
  | some file =>
    obtain ⟨entry, hpath, hmodified, hsize, rfl, hentries⟩ := exists_entries_get hserved
    have hresult : result = _ := loadCandidate_of_served hserved
    rw [hresult]
    refine ⟨hcapacity, .inl ⟨entry, ⟨hpath, hmodified, hsize⟩, rfl, rfl,
      session.cache.capacity + (entry :: session.cache.others candidate.path).length,
      Nat.le_add_right _ _, ?_⟩⟩
    rw [List.take_of_length_le (Nat.le_add_left _ _)]
    exact hentries
  | none =>
    have hentries : (askedFor session candidate).cache.entries
        = session.cache.others candidate.path := entries_get_of_eq_none henabled hserved
    have hresult : result = _ := loadCandidate_of_not_served hserved
    cases hloaded : engine.loaded? tree maxSize candidate with
    | none =>
      simp only [hresult, hloaded]
      exact ⟨hcapacity, .inr ⟨trivial, trivial, rfl, hentries⟩⟩
    | some file =>
      simp only [hresult, hloaded]
      refine ⟨hcapacity, .inl ⟨⟨candidate.path, candidate.modified, candidate.size, file⟩,
        ⟨rfl, rfl, rfl⟩, rfl, rfl, session.cache.capacity, le_rfl, ?_⟩⟩
      -- The entries left by the lookup are those of other paths already.
      rw [← hcapacity, ← others_of_entries_eq hentries]
      rfl

theorem capacity_loadCandidate (henabled : session.cache.isEnabled = true) :
    (engine.loadCandidate tree maxSize candidate session).2.cache.capacity
      = session.cache.capacity :=
  (loadCandidate_cases engine tree maxSize candidate henabled).1

theorem isEnabled_loadCandidate (henabled : session.cache.isEnabled = true) :
    (engine.loadCandidate tree maxSize candidate session).2.cache.isEnabled = true := by
  rw [isEnabled, capacity_loadCandidate henabled]
  exact henabled

theorem scanned_loadCandidate (henabled : session.cache.isEnabled = true) :
    let result := engine.loadCandidate tree maxSize candidate session
    result.2.scanned = session.scanned + result.1.toList.length := by
  obtain ⟨-, ⟨entry, -, hloaded, hscanned, -⟩ | ⟨-, hloaded, hscanned, -⟩⟩ :=
    loadCandidate_cases engine tree maxSize candidate henabled
  · simp only [hscanned, hloaded, Option.toList_some, List.length_singleton]
  · simp only [hscanned, hloaded, Option.toList_none, List.length_nil, Nat.add_zero]

/-- A candidate that has been loaded is settled, with what was loaded of it. -/
theorem settles_loadCandidate (henabled : session.cache.isEnabled = true) :
    let result := engine.loadCandidate tree maxSize candidate session
    Settles result.2 candidate result.1
      ∧ (result.1 = none → engine.loaded? tree maxSize candidate = none) := by
  intro result
  obtain ⟨-, ⟨entry, hof, hloaded, hscanned, room, hle, hentries⟩
      | ⟨hfailed, hnone, -, hentries⟩⟩ :=
    loadCandidate_cases engine tree maxSize candidate henabled
  · rw [show result.1 = _ from hloaded]
    have hroom : 0 < room := by
      rw [isEnabled, bne_iff_ne] at henabled
      omega
    refine ⟨.held hof (leads_of_take ?_ hroom hentries), fun hnone => absurd hnone (by simp)⟩
    rw [show result.2.scanned = _ from hscanned]
    exact Nat.succ_pos _
  · rw [show result.1 = _ from hnone]
    refine ⟨.unseen fun entry hentry => ?_, fun _ => hfailed⟩
    rw [hentries] at hentry
    exact (mem_others_iff.mp hentry).2

/-- A candidate stays settled while another one is loaded, as long as there is room. -/
theorem Settles.loadCandidate (h : Settles session candidate loaded)
    (hother : candidate.path.components ≠ other.path.components)
    (henabled : session.cache.isEnabled = true)
    (hroom : (engine.loadCandidate tree maxSize other session).2.scanned
      ≤ session.cache.capacity) :
    Settles (engine.loadCandidate tree maxSize other session).2 candidate loaded := by
  obtain ⟨-, ⟨newest, hnewest, -, hscanned, room, hle, hentries⟩ | ⟨-, -, hscanned, hentries⟩⟩ :=
    loadCandidate_cases engine tree maxSize other henabled
  · cases h with
    | held hof hleads =>
      refine .held hof ?_
      rw [hscanned] at hroom ⊢
      exact hleads.take (hof.path_eq ▸ hother) hnewest.path_eq (by omega) hentries
    | unseen h =>
      refine .unseen fun entry hentry => ?_
      rw [hentries] at hentry
      rcases List.mem_cons.mp (List.mem_of_mem_take hentry) with rfl | hmem
      · rw [hnewest.path_eq]
        exact hother.symm
      · exact h entry (mem_others hmem)
  · cases h with
    | held hof hleads =>
      refine .held hof ?_
      rw [hscanned]
      exact hleads.others (hof.path_eq ▸ hother) hentries
    | unseen h =>
      refine .unseen fun entry hentry => ?_
      rw [hentries] at hentry
      exact h entry (mem_others hentry)

/-! ### The first search -/

theorem capacity_collectHits (henabled : session.cache.isEnabled = true) :
    (engine.collectHits tree plan options candidates session).2.cache.capacity
      = session.cache.capacity := by
  induction candidates generalizing session with
  | nil => rfl
  | cons candidate rest ih =>
    rw [collectHits_cons]
    exact (ih (isEnabled_loadCandidate henabled)).trans (capacity_loadCandidate henabled)

theorem scanned_le_collectHits (henabled : session.cache.isEnabled = true) :
    session.scanned ≤ (engine.collectHits tree plan options candidates session).2.scanned := by
  induction candidates generalizing session with
  | nil => exact le_rfl
  | cons candidate rest ih =>
    rw [collectHits_cons]
    refine Nat.le_trans ?_ (ih (isEnabled_loadCandidate henabled))
    rw [scanned_loadCandidate henabled]
    exact Nat.le_add_right _ _

/-- A candidate stays settled while others are loaded, as long as there is room. -/
theorem Settles.collectHits (h : Settles session candidate loaded)
    (hothers : ∀ c ∈ candidates, candidate.path.components ≠ c.path.components)
    (henabled : session.cache.isEnabled = true)
    (hroom : (engine.collectHits tree plan options candidates session).2.scanned
      ≤ session.cache.capacity) :
    Settles (engine.collectHits tree plan options candidates session).2 candidate loaded := by
  induction candidates generalizing session with
  | nil => exact h
  | cons other rest ih =>
    obtain ⟨hother, hrest⟩ := List.forall_mem_cons.mp hothers
    rw [collectHits_cons] at hroom ⊢
    refine ih (h.loadCandidate hother henabled ?_) hrest (isEnabled_loadCandidate henabled) ?_
    · exact (scanned_le_collectHits (isEnabled_loadCandidate henabled)).trans hroom
    · rw [capacity_loadCandidate henabled]
      exact hroom

/-- If there is room for all files that a search looks at, the cache serves them afterwards, and
the other candidates cannot be loaded. -/
theorem collectHits_settles
    (hdistinct : candidates.Pairwise fun a b => a.path.components ≠ b.path.components)
    (henabled : session.cache.isEnabled = true) :
    let result := engine.collectHits tree plan options candidates session
    let files := candidates.filterMap result.2.cache.served?
    result.2.scanned ≤ session.cache.capacity →
      (∀ c ∈ candidates, result.2.cache.served? c = none →
        engine.loaded? tree options.maxFileSize c = none)
      ∧ result.1 = files.filterMap (engine.hit? plan options)
      ∧ result.2.scanned = session.scanned + files.length := by
  induction candidates generalizing session with
  | nil => exact fun _ => ⟨by nofun, rfl, rfl⟩
  | cons candidate rest ih =>
    obtain ⟨hfirst, hrest⟩ := List.pairwise_cons.mp hdistinct
    have hafter := @isEnabled_loadCandidate engine tree options.maxFileSize candidate session
      henabled
    rw [collectHits_cons]
    intro result files hroom
    obtain ⟨hsettles, hfailed⟩ := @settles_loadCandidate engine tree options.maxFileSize candidate
      session henabled
    rw [← capacity_loadCandidate henabled] at hroom
    obtain ⟨hloaded, hhits, hscanned⟩ := ih hrest hafter hroom
    -- The first candidate stays settled while the rest is loaded.
    have hserved : result.2.cache.served? candidate
        = (engine.loadCandidate tree options.maxFileSize candidate session).1 := by
      refine (hsettles.collectHits hfirst hafter hroom).served?_eq ?_
      rw [isEnabled, capacity_collectHits hafter]
      exact hafter
    have hfiles : files = _ := filterMap_cons_eq_append result.2.cache.served? candidate rest
    rw [hserved] at hfiles
    refine ⟨List.forall_mem_cons.mpr ⟨fun hnone => hfailed (hserved.symm.trans hnone), hloaded⟩,
      ?_, ?_⟩
    · rw [hfiles, filterMap_toList_append, ← hhits]
    · rw [hfiles, List.length_append, ← Nat.add_assoc, ← scanned_loadCandidate henabled]
      exact hscanned

/-! ### The second search -/

/-- The session after a candidate has been taken from the cache, if that serves it. -/
def taken (session : Session) (candidate : Candidate) : Session :=
  let count := (session.cache.served? candidate).toList.length
  { cache := (askedFor session candidate).cache
    scanned := session.scanned + count
    cacheHits := session.cacheHits + count }

theorem loadCandidate_eq_taken (h : session.cache.served? candidate = none →
      engine.loaded? tree maxSize candidate = none) :
    engine.loadCandidate tree maxSize candidate session
      = (session.cache.served? candidate, taken session candidate) := by
  cases hserved : session.cache.served? candidate with
  | some file =>
    rw [taken, hserved]
    exact loadCandidate_of_served hserved
  | none =>
    rw [loadCandidate_of_not_served hserved, h hserved, taken, hserved]
    rfl

theorem served?_taken_of_ne (h : candidate.path.components ≠ other.path.components) :
    (taken session candidate).cache.served? other = session.cache.served? other :=
  get_get_of_ne h

/-- If the cache serves all candidates but those that cannot be loaded, a search takes all that it
looks at from the cache. -/
theorem collectHits_of_served
    (hdistinct : candidates.Pairwise fun a b => a.path.components ≠ b.path.components)
    (hserved : ∀ c ∈ candidates, session.cache.served? c = none →
      engine.loaded? tree options.maxFileSize c = none) :
    let result := engine.collectHits tree plan options candidates session
    let files := candidates.filterMap session.cache.served?
    result.1 = files.filterMap (engine.hit? plan options)
      ∧ result.2.scanned = session.scanned + files.length
      ∧ result.2.cacheHits = session.cacheHits + files.length := by
  induction candidates generalizing session with
  | nil => exact ⟨rfl, rfl, rfl⟩
  | cons candidate rest ih =>
    obtain ⟨hfirst, hrest⟩ := List.pairwise_cons.mp hdistinct
    obtain ⟨hcandidate, hothers⟩ := List.forall_mem_cons.mp hserved
    -- To look up the first candidate leaves what is served of the others.
    have hsame : ∀ c ∈ rest, (taken session candidate).cache.served? c
        = session.cache.served? c := fun c hc => served?_taken_of_ne (hfirst c hc)
    obtain ⟨hhits, hscanned, hcacheHits⟩ := @ih (taken session candidate) hrest
      fun c hc hnone => hothers c hc ((hsame c hc).symm.trans hnone)
    rw [List.filterMap_congr hsame] at hhits hscanned hcacheHits
    rw [collectHits_cons, loadCandidate_eq_taken hcandidate, filterMap_cons_eq_append]
    refine ⟨?_, ?_, ?_⟩
    · rw [filterMap_toList_append, ← hhits]
    · rw [List.length_append, ← Nat.add_assoc]
      exact hscanned
    · rw [List.length_append, ← Nat.add_assoc]
      exact hcacheHits

/-- Two searches one after the other look at the same candidates, each in an order of its own.  If
there is room for all files that the first one looks at, both find what the cache serves after the
first, and the second one takes all of it from there. -/
theorem collectHits_again {again : List Candidate}
    (hdistinct : candidates.Pairwise fun a b => a.path.components ≠ b.path.components)
    (hperm : again.Perm candidates) (henabled : engine.cache.isEnabled = true) :
    let first := engine.collectHits tree plan options candidates { cache := engine.cache }
    let second := engine.collectHits tree plan options again { cache := first.2.cache }
    first.2.scanned ≤ engine.cache.capacity →
      first.1 = (candidates.filterMap first.2.cache.served?).filterMap (engine.hit? plan options)
      ∧ second.1 = (again.filterMap first.2.cache.served?).filterMap (engine.hit? plan options)
      ∧ second.2.scanned = first.2.scanned ∧ second.2.cacheHits = second.2.scanned := by
  intro first second hroom
  obtain ⟨hserved, hhits, hscanned⟩ :=
    @collectHits_settles engine tree plan options _ { cache := engine.cache } hdistinct henabled
      hroom
  -- The second search finds the cache as the first one has left it, and counts anew.
  have hdistinct' := hperm.symm.pairwise hdistinct Ne.symm
  obtain ⟨hhits', hscanned', hcacheHits'⟩ := @collectHits_of_served engine tree plan options again
    { cache := first.2.cache } hdistinct' fun c hc => hserved c (hperm.mem_iff.mp hc)
  refine ⟨hhits, hhits', ?_, hcacheHits'.trans hscanned'.symm⟩
  have hlength := (hperm.filterMap first.2.cache.served?).length_eq
  exact hscanned'.trans ((congrArg (0 + ·) hlength).trans hscanned.symm)

/-! ### Files under their own paths -/

theorem preserves_loadKnown_holdsOwn {path : Path} {modified size : Nat} :
    Preserves HoldsOwn (engine.loadKnown tree path modified size maxSize) := by
  intro session h
  have hasked : (asked session path modified size).cache.HoldsOwn :=
    HoldsOwn.of_subset h fun entry => mem_of_mem_get
  rw [loadKnown_eq]
  cases (session.cache.get path modified size).1 with
  | some file => exact hasked
  | none =>
    simp only [loadFresh_eq]
    cases hanalyze : engine.analyzeFile tree path size maxSize with
    | error failure => exact hasked
    | ok file =>
      intro entry hentry
      rcases mem_of_mem_insert hentry with rfl | hold
      · exact congrArg Path.components (path_of_analyzeFile hanalyze)
      · exact hasked entry hold

theorem holdsOwn_search {cancelled : Bool} {query : String} {options : SearchOptions}
    (h : engine.cache.HoldsOwn) :
    (engine.search tree query options cancelled).2.cache.HoldsOwn :=
  search_preserves query options cancelled (fun plan _ =>
    preserves_searchPlan plan _ cancelled fun _ _ =>
      preserves_loadCandidate preserves_loadKnown_holdsOwn) h

theorem holdsOwn_findRelated {path : String} {options : SearchOptions}
    (h : engine.cache.HoldsOwn) : (engine.findRelated tree path options).2.cache.HoldsOwn := by
  refine findRelated_preserves path options ?_ (fun start target maxHops limit => ?_) h
  · exact preserves_loadPath fun _ _ _ => preserves_loadKnown_holdsOwn
  · refine preserves_relatedFiles start target maxHops limit (fun file edge _ => ?_) fun c _ => ?_
    · exact preserves_loadTarget fun candidate _ =>
        preserves_loadCandidate preserves_loadKnown_holdsOwn
    · exact preserves_loadCandidate preserves_loadKnown_holdsOwn

theorem holdsOwn_perform {workspace : Workspace} (h : workspace.engine.cache.HoldsOwn)
    (action : Action) : (workspace.perform action).engine.cache.HoldsOwn := by
  cases action with
  | search query options cancelled =>
    simp only [Workspace.perform]
    exact holdsOwn_search h
  | searchMeaning query options =>
    simp only [Workspace.perform, searchMeaning]
    exact holdsOwn_search h
  | findUsages name options =>
    simp only [Workspace.perform, findUsages]
    exact holdsOwn_search h
  | findRelated path options => exact holdsOwn_findRelated h
  | analyze path =>
    exact analyze_preserves path
      (preserves_loadPath fun _ _ _ => preserves_loadKnown_holdsOwn) h
  | invalidate => exact fun entry hentry => absurd hentry List.not_mem_nil
  | invalidatePath path => exact HoldsOwn.of_subset h fun entry => mem_others
  | add path content => exact h
  | touch path => exact h
  | remove path => exact h
  | deny path => exact h

/-- Whatever is done, each entry of the cache holds a file of its own path. -/
theorem holdsOwn_run {workspace : Workspace} (h : workspace.engine.cache.HoldsOwn)
    (actions : List Action) : (workspace.run actions).engine.cache.HoldsOwn := by
  induction actions generalizing workspace with
  | nil => exact h
  | cons action actions ih => exact ih (holdsOwn_perform h action)

/-- What a cache serves of a candidate has the path of the candidate. -/
theorem path_of_served? {cache : AnalysisCache} {file : AnalyzedFile} (h : cache.HoldsOwn)
    (hserved : cache.served? candidate = some file) :
    file.path.components = candidate.path.components := by
  obtain ⟨entry, hentry, hpath, -, -, rfl⟩ := exists_of_get hserved
  exact (h entry hentry).trans hpath

/-- Of the hits among what a cache serves no two have the same path. -/
theorem nodup_pathTexts_served {cache : AnalysisCache} (h : cache.HoldsOwn)
    (hdistinct : candidates.Pairwise fun a b => a.path.components ≠ b.path.components) :
    (pathTexts ((candidates.filterMap cache.served?).filterMap
      (engine.hit? plan options))).Nodup := by
  refine Path.nodup_text (fun hit : Hit => hit.file.path) ?_
  rw [List.Nodup, List.pairwise_map, List.filterMap_filterMap]
  refine List.pairwise_filterMap.mpr (hdistinct.imp ?_)
  intro c c' hne hit hhit hit' hhit' hsame
  obtain ⟨file, hfile, hhit⟩ := Option.bind_eq_some_iff.mp hhit
  obtain ⟨file', hfile', hhit'⟩ := Option.bind_eq_some_iff.mp hhit'
  rw [file_of_hit? hhit, file_of_hit? hhit', path_of_served? h hfile,
    path_of_served? h hfile'] at hsame
  exact hne hsame

/-! ### The two answers -/

theorem totalFilesScanned_answer (options : ResolvedOptions) (metadata : SearchMetadata)
    (hits : List Hit) :
    (answer options metadata hits).metadata.totalFilesScanned = metadata.totalFilesScanned
      ∧ (answer options metadata hits).metadata.cacheHits = metadata.cacheHits := by
  change (metadata.withLanguages _).totalFilesScanned = _ ∧ (metadata.withLanguages _).cacheHits = _
  rw [SearchMetadata.withLanguages]
  split <;> exact ⟨rfl, rfl⟩

theorem collectHits_withCache (engine : Engine) (cache : AnalysisCache) (session : Session) :
    (engine.withCache cache).collectHits tree plan options candidates session
      = engine.collectHits tree plan options candidates session := by
  induction candidates generalizing session with
  | nil => rfl
  | cons candidate rest ih =>
    rw [collectHits_cons, collectHits_cons]
    simp only [ih]
    rfl

/-- What an engine finds does not depend on the cache that it has, but on that of the session. -/
theorem searchPlan_withCache (engine : Engine) (cache : AnalysisCache) (cancelled : Bool)
    (session : Session) :
    (engine.withCache cache).searchPlan tree plan options cancelled session
      = engine.searchPlan tree plan options cancelled session := by
  simp only [searchPlan_eq, collectHits_withCache]
  rfl

/-- If there is room for all files that a search looks at, the same search takes all files from the
cache that it leaves, and answers alike. -/
theorem searchPlan_again (hdistinct : ((engine.walker options).walk tree).Pairwise
      fun a b => a.path.components ≠ b.path.components)
    (henabled : engine.cache.isEnabled = true) (plan : QueryPlan) (cancelled : Bool) :
    let first := engine.searchPlan tree plan options cancelled { cache := engine.cache }
    let second := (engine.withCache first.2.cache).searchPlan tree plan options cancelled
      { cache := first.2.cache }
    first.1.metadata.totalFilesScanned ≤ engine.cache.capacity →
      second.1.metadata.cacheHits = second.1.metadata.totalFilesScanned
      ∧ second.1.timeless = first.1.timeless := by
  simp only [searchPlan_withCache]
  simp only [searchPlan_eq, totalFilesScanned_answer]
  have hcandidates : (if cancelled then [] else (engine.walker options).walk tree).Pairwise
      fun a b => a.path.components ≠ b.path.components := by
    split
    · exact .nil
    · exact hdistinct
  generalize (if cancelled then [] else (engine.walker options).walk tree) = candidates
    at hcandidates ⊢
  intro hroom
  obtain ⟨hhits, hhits', hscanned, hcacheHits⟩ := @collectHits_again engine tree plan options
    candidates candidates hcandidates .rfl henabled hroom
  refine ⟨hcacheHits, ?_⟩
  rw [hhits', ← hhits]
  refine answer_timeless options _ ?_
  simp only [SearchMetadata.timeless, hscanned]

/-- Whatever the orders in which two searches look at the same candidates, the second one answers
as the first, if the cache has room and holds files under their own paths. -/
theorem answer_again {again : List Candidate}
    (hdistinct : candidates.Pairwise fun a b => a.path.components ≠ b.path.components)
    (hperm : again.Perm candidates) (henabled : engine.cache.isEnabled = true)
    (metadata : SearchMetadata) :
    let first := engine.collectHits tree plan options candidates { cache := engine.cache }
    let second := engine.collectHits tree plan options again { cache := first.2.cache }
    first.2.scanned ≤ engine.cache.capacity →
      second.1.Perm first.1
      ∧ (engine.cache.HoldsOwn →
        answer options metadata second.1 = answer options metadata first.1) := by
  intro first second hroom
  obtain ⟨hhits, hhits', -, -⟩ := @collectHits_again engine tree plan options candidates again
    hdistinct hperm henabled hroom
  have hsame : second.1.Perm first.1 := by
    rw [show second.1 = _ from hhits', show first.1 = _ from hhits]
    exact (hperm.filterMap _).filterMap _
  refine ⟨hsame, fun howns => answer_eq_of_perm ?_ hsame options metadata⟩
  have hafter : first.2.cache.HoldsOwn :=
    preserves_collectHits (fun c _ => preserves_loadCandidate preserves_loadKnown_holdsOwn) _ howns
  rw [show first.1 = _ from hhits]
  exact nodup_pathTexts_served hafter hdistinct

/-- A call that is made twice in a row takes all files from the cache the second time, and answers
alike, if the cache has room for all files that the first one looks at. -/
def Repeats (engine : Engine) (call : Engine → RetrievalContext × Engine) : Prop :=
  let first := call engine
  let second := call first.2
  first.1.metadata.totalFilesScanned ≤ engine.cache.capacity →
    second.1.metadata.cacheHits = second.1.metadata.totalFilesScanned
      ∧ second.1.files = first.1.files ∧ second.1.timeless = first.1.timeless

theorem repeats_search (henabled : engine.cache.isEnabled = true) (memory : MemoryTree)
    (query : String) (options : SearchOptions) (cancelled : Bool) :
    engine.Repeats fun engine => engine.search memory.tree query options cancelled := by
  by_cases hempty : (QueryPlan.make query options.kind).isEmpty = true
  · -- There is nothing to look for, so no file is looked at.
    simp only [Repeats, search, if_pos hempty]
    exact fun _ => ⟨rfl, trivial, trivial⟩
  · simp only [Repeats, search, if_neg hempty]
    intro hroom
    obtain ⟨hcacheHits, hanswer⟩ := searchPlan_again (Walker.pairwise_walk _ memory) henabled
      (QueryPlan.make query options.kind) cancelled hroom
    have hfiles := congrArg RetrievalContext.files hanswer
    exact ⟨hcacheHits, hfiles, hanswer⟩

/-- An engine whose cache is switched on, whatever it holds, answers the same query twice in a row
alike, and the second time from the cache, if that has room for all files that the query looks
at.  So it does in whatever orders the files are looked at: the second time each one is taken from
the cache and the hits are the same, and so is the answer if the cache holds files under their own
paths. -/
theorem repeats_calls (henabled : engine.cache.isEnabled = true) (memory : MemoryTree)
    (query : String) (options : SearchOptions) (cancelled : Bool) :
    engine.Repeats (fun engine => engine.search memory.tree query options cancelled)
      ∧ engine.Repeats (fun engine => engine.searchMeaning memory.tree query options)
      ∧ engine.Repeats (fun engine => engine.findUsages memory.tree query options)
      ∧ ∀ (plan : QueryPlan) (resolved : ResolvedOptions) (candidates again : List Candidate),
        candidates.Perm ((engine.walker resolved).walk memory.tree) → again.Perm candidates →
        let first := engine.collectHits memory.tree plan resolved candidates
          { cache := engine.cache }
        let second := engine.collectHits memory.tree plan resolved again
          { cache := first.2.cache }
        first.2.scanned ≤ engine.cache.capacity →
          second.2.cacheHits = second.2.scanned ∧ second.2.scanned = first.2.scanned
          ∧ second.1.Perm first.1
          ∧ (engine.cache.HoldsOwn → ∀ metadata,
            answer resolved metadata second.1 = answer resolved metadata first.1) := by
  refine ⟨repeats_search henabled memory query options cancelled,
    repeats_search henabled memory query _ false, repeats_search henabled memory query _ false,
    fun plan resolved candidates again hwalk hagain => ?_⟩
  intro first second hroom
  have hdistinct : candidates.Pairwise fun a b => a.path.components ≠ b.path.components :=
    hwalk.symm.pairwise (Walker.pairwise_walk _ memory) Ne.symm
  obtain ⟨-, -, hscanned, hcacheHits⟩ := @collectHits_again engine memory.tree plan resolved
    candidates again hdistinct hagain henabled hroom
  have hanswer := fun metadata => @answer_again engine memory.tree plan resolved candidates again
    hdistinct hagain henabled metadata hroom
  exact ⟨hcacheHits, hscanned, (hanswer default).1, fun howns metadata =>
    (hanswer metadata).2 howns⟩

/-- An engine whose cache has room for one file and holds two old entries. -/
def overfull : Engine :=
  let old : AnalyzedFile := .make ⟨"/w/a.ts"⟩ "a.ts" "old" none {}
  (start {} .empty {} .standard ⟨"/w"⟩).withCache
    { capacity := 1, entries := [⟨⟨"/w/gone.ts"⟩, 0, 3, old⟩, ⟨⟨"/w/a.ts"⟩, 0, 3, old⟩] }

/-- A tree of one file, which one of the entries is of, but not as it stands. -/
def renewed : MemoryTree :=
  (default : MemoryTree).add ⟨"/w/a.ts"⟩ "export const alpha = 1;\n".toUTF8

/-- The old entries make way for the file as it stands, which is served from then on. -/
theorem repeats_calls_overfull :
    overfull.cache.isEnabled = true
      ∧ (overfull.search renewed.tree "alpha" {} false).1.metadata.totalFilesScanned = 1
      ∧ ((overfull.search renewed.tree "alpha" {} false).2.search renewed.tree "alpha" {}
        false).1.metadata.cacheHits = 1 := by
  have henabled : overfull.cache.isEnabled = true := rfl
  have hscanned : (overfull.search renewed.tree "alpha" {} false).1.metadata.totalFilesScanned
      = 1 := by
    decide +kernel
  have hagain := (repeats_calls henabled renewed "alpha" {} false).1
  simp only [Repeats] at hagain
  obtain ⟨hcacheHits, -, hanswer⟩ := hagain hscanned.le
  have hscanned' : ∀ context : RetrievalContext,
      context.timeless.metadata.totalFilesScanned = context.metadata.totalFilesScanned :=
    fun _ => rfl
  exact ⟨henabled, hscanned, by rw [hcacheHits, ← hscanned', hanswer, hscanned', hscanned]⟩

end Engine

end SourceRetrieval
