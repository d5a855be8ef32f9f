/-
What a cache remembers of what was done to it.

A history is a list of operations, the latest last, and `run` is the cache after it.

* `isLatest_of_mem` — an entry is what the latest insertion of its path recorded, and
  nothing has dropped it since;
* `mem_run_of_spares` — an entry that nothing drops stays as long as the paths used after
  it are fewer than the capacity, for it stands behind none but theirs;
* `lookups_run` — hits and misses together count the lookups since the cache was cleared;
* `run_remembers` — so the cache is a map of bounded size that forgets the path first that
  has not been used for the longest.

Design notes: a lookup uses its path only if it hits, so which paths are used depends on
the cache that the operations find.  Paths are told apart by their components.
-/
import Mathlib.Data.Finset.Card
import Mathlib.Data.List.Induction
import SourceRetrieval.Proofs.Cache.Lookup

namespace SourceRetrieval

open SourceRetrieval.Path

/-- Something that is done to a cache. -/
inductive CacheOperation where
  | get (path : Path) (modified size : Nat)
  | insert (path : Path) (modified size : Nat) (file : AnalyzedFile)
  | invalidate (path : Path)
  | invalidateAll

namespace CacheOperation

def isGet : CacheOperation → Bool
  | get .. => true
  | _ => false

def isInvalidateAll : CacheOperation → Bool
  | invalidateAll => true
  | _ => false

/-- The operation records the entry. -/
def Records (entry : CacheEntry) : CacheOperation → Prop
  | insert path modified size file => path.components = entry.path.components
    ∧ modified = entry.modified ∧ size = entry.size ∧ file = entry.file
  | _ => False

/-- The operation neither replaces the entry nor drops it: it is of another path, or looks the
entry up as it stands. -/
def Spares (entry : CacheEntry) : CacheOperation → Prop
  | get path modified size =>
    path.components = entry.path.components → modified = entry.modified ∧ size = entry.size
  | insert path _ _ _ => path.components ≠ entry.path.components
  | invalidate path => path.components ≠ entry.path.components
  | invalidateAll => False

theorem Spares.congr {operation : CacheOperation} {entry other : CacheEntry}
    (hpath : entry.path.components = other.path.components)
    (hmodified : entry.modified = other.modified) (hsize : entry.size = other.size)
    (h : operation.Spares entry) : operation.Spares other := by
  cases operation with
  | get => rwa [Spares, hpath, hmodified, hsize] at h
  | insert | invalidate => rwa [Spares, hpath] at h
  | invalidateAll => exact h

/-- An operation that records an entry does not spare one of the same path. -/
theorem Records.not_spares {operation : CacheOperation} {entry other : CacheEntry}
    (h : operation.Records entry) (hpath : entry.path.components = other.path.components) :
    ¬operation.Spares other := by
  intro hspares
  cases operation with
  | insert path modified size file => exact hspares (h.1.trans hpath)
  | get | invalidate | invalidateAll => exact h

theorem Records.unique {operation : CacheOperation} {entry other : CacheEntry}
    (h : operation.Records entry) (hother : operation.Records other) :
    entry.modified = other.modified ∧ entry.size = other.size ∧ entry.file = other.file := by
  cases operation with
  | insert path modified size file =>
    obtain ⟨-, rfl, rfl, rfl⟩ := h
    exact hother.2
  | get | invalidate | invalidateAll => exact h.elim

end CacheOperation

namespace AnalysisCache

open CacheOperation

/-- The cache after an operation. -/
def perform (cache : AnalysisCache) : CacheOperation → AnalysisCache
  | .get path modified size => (cache.get path modified size).2
  | .insert path modified size file => cache.insert path modified size file
  | .invalidate path => (cache.invalidate path).1
  | .invalidateAll => cache.invalidateAll

/-- The cache after some operations, one after the other. -/
def run (cache : AnalysisCache) (operations : List CacheOperation) : AnalysisCache :=
  operations.foldl perform cache

/-- The path that an operation inserts or hits. -/
def usedPath? (cache : AnalysisCache) : CacheOperation → Option Path
  | .get path modified size => (cache.get path modified size).1.map fun _ => path
  | .insert path _ _ _ => some path
  | _ => none

/-- The paths that operations insert or hit, one after the other. -/
def usedPaths (cache : AnalysisCache) : List CacheOperation → List Path
  | [] => []
  | operation :: later =>
    (cache.usedPath? operation).toList ++ (cache.perform operation).usedPaths later

/-- The other paths that operations insert or hit, each by its components. -/
def othersUsed (cache : AnalysisCache) (path : Path) (operations : List CacheOperation) :
    Finset (List Component) :=
  ((cache.usedPaths operations).map components).toFinset.erase path.components

/-- The latest insertion of a path in a history recorded the entry, and no operation since then
has dropped it. -/
def IsLatest (history : List CacheOperation) (entry : CacheEntry) : Prop :=
  ∃ before insertion after, history = before ++ insertion :: after
    ∧ insertion.Records entry ∧ ∀ operation ∈ after, operation.Spares entry

/-- Since a use of the path in a history that begins with an empty cache, fewer other paths
have been used than the cache has room for. -/
def IsRecent (capacity : Nat) (history : List CacheOperation) (path : Path) : Prop :=
  ∃ before use after used, history = before ++ use :: after
    ∧ (run { capacity } before).usedPath? use = some used
    ∧ used.components = path.components
    ∧ ((run { capacity } (before ++ [use])).othersUsed path after).card < capacity

/-- The number of lookups in a history since the cache was last cleared. -/
def lookups (history : List CacheOperation) : Nat :=
  (history.reverse.takeWhile fun operation => !operation.isInvalidateAll).countP (·.isGet)

/-- A cache has no two entries of the same path, and no more than it has room for. -/
structure IsOrderly (cache : AnalysisCache) : Prop where
  nodup : (cache.entries.map fun entry => entry.path.components).Nodup
  length_le : cache.entries.length ≤ cache.capacity

variable {cache : AnalysisCache} {operation : CacheOperation}
  {history before after : List CacheOperation} {entry other : CacheEntry} {path : Path}
  {capacity : Nat}

theorem run_append (cache : AnalysisCache) (before after : List CacheOperation) :
    cache.run (before ++ after) = (cache.run before).run after :=
  List.foldl_append

theorem usedPaths_append (cache : AnalysisCache) (before after : List CacheOperation) :
    cache.usedPaths (before ++ after)
      = cache.usedPaths before ++ (cache.run before).usedPaths after := by
  induction before generalizing cache with
  | nil => rfl
  | cons operation before ih =>
    rw [List.cons_append, usedPaths, usedPaths, ih, List.append_assoc]
    rfl

theorem othersUsed_subset (cache : AnalysisCache) (path : Path)
    (before after : List CacheOperation) :
    (cache.run before).othersUsed path after ⊆ cache.othersUsed path (before ++ after) := by
  refine Finset.erase_subset_erase _ fun key hkey => ?_
  rw [List.mem_toFinset] at hkey ⊢
  rw [usedPaths_append, List.map_append]
  exact List.mem_append_right _ hkey

/-! ### The order of the entries -/

theorem capacity_perform (cache : AnalysisCache) (operation : CacheOperation) :
    (cache.perform operation).capacity = cache.capacity := by
  cases operation with
  | get path modified size => exact capacity_get cache path modified size
  | insert | invalidate | invalidateAll => rfl

theorem capacity_run (cache : AnalysisCache) (history : List CacheOperation) :
    (cache.run history).capacity = cache.capacity := by
  induction history generalizing cache with
  | nil => rfl
  | cons operation later ih => exact (ih _).trans (capacity_perform cache operation)

namespace IsOrderly

theorem isEnabled (h : cache.IsOrderly) (hentry : entry ∈ cache.entries) :
    cache.isEnabled = true := by
  have hlength : 0 < cache.entries.length := List.length_pos_of_mem hentry
  have hle := h.length_le
  rw [AnalysisCache.isEnabled, bne_iff_ne]
  omega

theorem eq_of_components (h : cache.IsOrderly) (hentry : entry ∈ cache.entries)
    (hother : other ∈ cache.entries) (hpath : entry.path.components = other.path.components) :
    entry = other :=
  List.inj_on_of_nodup_map h.nodup hentry hother hpath

theorem entry_eq (h : cache.IsOrderly) (hentry : entry ∈ cache.entries)
    (hpath : entry.path.components = path.components) : cache.entry? path = some entry := by
  cases hfound : cache.entry? path with
  | none => exact absurd hpath (ne_of_entry_eq_none hfound hentry)
  | some found =>
    obtain ⟨hmem, hcomponents⟩ := mem_of_entry_eq hfound
    rw [h.eq_of_components hmem hentry (hcomponents.trans hpath.symm)]

theorem nodup_others (h : cache.IsOrderly) (path : Path) :
    (path.components :: (cache.others path).map fun entry => entry.path.components).Nodup := by
  refine List.nodup_cons.mpr ⟨fun hmem => ?_, h.nodup.sublist (List.filter_sublist.map _)⟩
  obtain ⟨entry, hentry, hpath⟩ := List.mem_map.mp hmem
  exact (mem_others_iff.mp hentry).2 hpath

theorem length_others (h : cache.IsOrderly) (path : Path) :
    (cache.others path).length ≤ cache.capacity :=
  (List.length_filter_le _ _).trans h.length_le

/-- An entry that is put in front of those of other paths takes the place of its own. -/
theorem length_front (h : cache.IsOrderly) (hentry : entry ∈ cache.entries)
    (hpath : entry.path.components = path.components) :
    (entry :: cache.others path).length ≤ cache.capacity := by
  have hout : entry ∉ cache.others path := fun hmem => (mem_others_iff.mp hmem).2 hpath
  have hlt : (cache.others path).length < cache.entries.length := by
    refine List.length_filter_lt_length_iff_exists.mpr ⟨entry, hentry, fun hkept => hout ?_⟩
    exact List.mem_filter.mpr ⟨hentry, hkept⟩
  have hle := h.length_le
  rw [List.length_cons]
  omega

protected theorem perform (h : cache.IsOrderly) (operation : CacheOperation) :
    (cache.perform operation).IsOrderly := by
  cases operation with
  | get path modified size =>
    show (cache.get path modified size).2.IsOrderly
    cases henabled : cache.isEnabled with
    | false => rwa [get_of_not_isEnabled henabled]
    | true =>
      obtain ⟨-, hget⟩ | ⟨entry, hentry, -, -, hget⟩ | ⟨entry, -, -, hget⟩ :=
        get_cases henabled path modified size
      · rw [hget]
        exact ⟨h.nodup, h.length_le⟩
      · obtain ⟨hmem, hpath⟩ := mem_of_entry_eq hentry
        rw [hget]
        refine ⟨?_, h.length_front hmem hpath⟩
        show (entry.path.components :: _).Nodup
        rw [hpath]
        exact h.nodup_others path
      · rw [hget]
        exact ⟨(h.nodup_others path).of_cons, h.length_others path⟩
  | insert path modified size file =>
    refine ⟨?_, List.length_take_le _ _⟩
    exact (h.nodup_others path).sublist ((List.take_sublist _ _).map _)
  | invalidate path => exact ⟨(h.nodup_others path).of_cons, h.length_others path⟩
  | invalidateAll => exact ⟨List.nodup_nil, Nat.zero_le _⟩

protected theorem run (h : cache.IsOrderly) (history : List CacheOperation) :
    (cache.run history).IsOrderly := by
  induction history generalizing cache with
  | nil => exact h
  | cons operation later ih => exact ih (h.perform operation)

end IsOrderly

theorem isOrderly_run (capacity : Nat) (history : List CacheOperation) :
    (run { capacity } history).IsOrderly := by
  have hempty : IsOrderly { capacity } := ⟨List.nodup_nil, Nat.zero_le _⟩
  exact hempty.run history

/-! ### Where the entries come from -/

/-- An entry was there before an operation that spares it, or the operation has recorded it. -/
theorem mem_perform_cases (h : cache.IsOrderly)
    (hentry : entry ∈ (cache.perform operation).entries) :
    operation.Records entry ∨ entry ∈ cache.entries ∧ operation.Spares entry := by
  have hothers : ∀ {path : Path}, entry ∈ cache.others path →
      entry ∈ cache.entries ∧ path.components ≠ entry.path.components := by
    intro path hmem
    exact ⟨mem_others hmem, (mem_others_iff.mp hmem).2.symm⟩
  cases operation with
  | get path modified size =>
    right
    refine ⟨mem_of_mem_get hentry, fun hpath => ?_⟩
    have henabled := h.isEnabled (mem_of_mem_get hentry)
    obtain ⟨hnone, -⟩ | ⟨found, -, hmodified, hsize, hget⟩ | ⟨found, -, -, hget⟩ :=
      get_cases henabled path modified size
    · exact absurd hpath.symm (ne_of_entry_eq_none hnone (mem_of_mem_get hentry))
    · rw [perform, hget] at hentry
      rcases List.mem_cons.mp hentry with rfl | hmem
      · exact ⟨hmodified.symm, hsize.symm⟩
      · exact absurd hpath (hothers hmem).2
    · rw [perform, hget] at hentry
      exact absurd hpath (hothers hentry).2
  | insert path modified size file =>
    rcases mem_insert_cases hentry with rfl | hmem
    · exact .inl ⟨rfl, rfl, rfl, rfl⟩
    · exact .inr (hothers hmem)
  | invalidate path => exact .inr (hothers hentry)
  | invalidateAll => cases hentry

theorem IsLatest.of_records (h : operation.Records entry) :
    IsLatest (history ++ [operation]) entry :=
  ⟨history, operation, [], rfl, h, by nofun⟩

theorem IsLatest.congr (h : IsLatest history entry)
    (hpath : entry.path.components = other.path.components)
    (hmodified : entry.modified = other.modified) (hsize : entry.size = other.size)
    (hfile : entry.file = other.file) : IsLatest history other := by
  obtain ⟨before, insertion, after, heq, hrecords, hspares⟩ := h
  refine ⟨before, insertion, after, heq, ?_, fun operation hmem => ?_⟩
  · cases insertion with
    | insert => rwa [Records, hpath, hmodified, hsize, hfile] at hrecords
    | get | invalidate | invalidateAll => exact hrecords
  · exact (hspares operation hmem).congr hpath hmodified hsize

theorem IsLatest.append (h : IsLatest history entry)
    (hafter : ∀ operation ∈ after, operation.Spares entry) :
    IsLatest (history ++ after) entry := by
  obtain ⟨before, insertion, between, rfl, hrecords, hspares⟩ := h
  refine ⟨before, insertion, between ++ after, by simp, hrecords, fun operation hmem => ?_⟩
  exact (List.mem_append.mp hmem).elim (hspares operation) (hafter operation)

theorem isLatest_of_mem (h : entry ∈ (run { capacity } history).entries) :
    IsLatest history entry := by
  induction history using List.reverseRecOn with
  | nil => cases h
  | append_singleton history operation ih =>
    rw [run_append] at h
    rcases mem_perform_cases (isOrderly_run capacity history) h with hrecords | ⟨hmem, hspares⟩
    · exact .of_records hrecords
    · exact (ih hmem).append (by simpa using hspares)

/-- What the latest insertion of a path has recorded is known by the history. -/
theorem IsLatest.unique (h : IsLatest history entry) (hother : IsLatest history other)
    (hpath : entry.path.components = other.path.components) :
    entry.modified = other.modified ∧ entry.size = other.size ∧ entry.file = other.file := by
  obtain ⟨before, insertion, after, rfl, hrecords, hspares⟩ := h
  obtain ⟨before', insertion', after', heq, hrecords', hspares'⟩ := hother
  -- Of two insertions of one path the later one would not have spared what the earlier recorded.
  obtain ⟨between, rfl, hlate⟩ | ⟨between, rfl, hlate⟩ := List.append_eq_append_iff.mp heq
  · cases between with
    | nil => exact hrecords.unique ((List.cons_eq_cons.mp hlate).1 ▸ hrecords')
    | cons first between =>
      obtain ⟨rfl, rfl⟩ := List.cons_eq_cons.mp hlate
      exact absurd (hspares insertion' (by simp)) (hrecords'.not_spares hpath.symm)
  · cases between with
    | nil => exact hrecords.unique ((List.cons_eq_cons.mp hlate).1 ▸ hrecords')
    | cons first between =>
      obtain ⟨rfl, rfl⟩ := List.cons_eq_cons.mp hlate
      exact absurd (hspares' insertion (by simp)) (hrecords.not_spares hpath)

/-! ### How long an entry stays -/

/-- The entry stands behind none but entries of the paths in `seen`. -/
def Stands (cache : AnalysisCache) (seen : Finset (List Component)) (entry : CacheEntry) : Prop :=
  ∃ front back, cache.entries = front ++ entry :: back
    ∧ ∀ newer ∈ front, newer.path.components ∈ seen

variable {seen : Finset (List Component)}

theorem Stands.mem (h : cache.Stands seen entry) : entry ∈ cache.entries := by
  obtain ⟨front, back, hentries, -⟩ := h
  rw [hentries]
  exact List.mem_append_right _ List.mem_cons_self

/-- To take out the entries of another path leaves an entry where it stands. -/
theorem Stands.others (h : cache.Stands seen entry)
    (hpath : path.components ≠ entry.path.components) :
    ∃ front back, cache.others path = front ++ entry :: back
      ∧ ∀ newer ∈ front, newer.path.components ∈ seen := by
  obtain ⟨front, back, hentries, hfront⟩ := h
  refine ⟨front.filter (!·.path.same path), back.filter (!·.path.same path), ?_,
    fun newer hnewer => ?_⟩
  · have hkept : (!entry.path.same path) = true := by
      rw [Bool.not_eq_true', ← Bool.not_eq_true, same_iff]
      exact hpath.symm
    rw [AnalysisCache.others, hentries, List.filter_append, List.filter_cons,
      if_pos hkept]
  · exact hfront newer (List.mem_filter.mp hnewer).1

/-- An operation that spares an entry leaves it where it stands, or puts one more entry in front of
it, or puts it in front itself. -/
theorem Stands.perform (h : cache.Stands seen entry) (horderly : cache.IsOrderly)
    (hspares : operation.Spares entry)
    (hused : ∀ used ∈ cache.usedPath? operation,
      used.components ≠ entry.path.components → used.components ∈ seen)
    (hroom : seen.card < cache.capacity) : (cache.perform operation).Stands seen entry := by
  cases operation with
  | get path modified size =>
    obtain ⟨-, hget⟩ | ⟨found, hfound, -, -, hget⟩ | ⟨found, hfound, hstale, hget⟩ :=
      get_cases (horderly.isEnabled h.mem) path modified size
    · rw [AnalysisCache.perform, hget]
      exact h
    · obtain ⟨hmem, hpath⟩ := mem_of_entry_eq hfound
      rw [AnalysisCache.perform, hget]
      by_cases hsame : path.components = entry.path.components
      · obtain rfl := horderly.eq_of_components hmem h.mem (hpath.trans hsame)
        exact ⟨[], _, rfl, by nofun⟩
      · obtain ⟨front, back, hothers, hfront⟩ := h.others hsame
        refine ⟨found :: front, back, ?_, fun newer hnewer => ?_⟩
        · show found :: cache.others path = _
          rw [hothers]
          rfl
        · rcases List.mem_cons.mp hnewer with rfl | hnewer
          · rw [hpath]
            exact hused path (by rw [usedPath?, hget]; rfl) hsame
          · exact hfront newer hnewer
    · -- The entry looked up is stale and this one is not.
      have hother : path.components ≠ entry.path.components := by
        intro hsame
        obtain ⟨hmem, hpath⟩ := mem_of_entry_eq hfound
        obtain rfl := horderly.eq_of_components hmem h.mem (hpath.trans hsame)
        obtain ⟨rfl, rfl⟩ := hspares hsame
        exact hstale ⟨rfl, rfl⟩
      rw [AnalysisCache.perform, hget]
      exact h.others hother
  | insert path modified size file =>
    obtain ⟨front, back, hothers, hfront⟩ := h.others hspares
    have hseen : ∀ key ∈ path.components :: front.map (fun newer => newer.path.components),
        key ∈ seen := by
      intro key hkey
      rcases List.mem_cons.mp hkey with rfl | hkey
      · exact hused path rfl hspares
      · obtain ⟨newer, hnewer, rfl⟩ := List.mem_map.mp hkey
        exact hfront newer hnewer
    have hnodup : (path.components :: front.map fun newer => newer.path.components).Nodup := by
      refine (horderly.nodup_others path).sublist (List.Sublist.cons_cons _ ?_)
      rw [hothers]
      exact (List.sublist_append_left _ _).map _
    have hlength : front.length + 1 ≤ seen.card := by
      have hcard := List.toFinset_card_of_nodup hnodup
      rw [List.length_cons, List.length_map] at hcard
      rw [← hcard]
      exact Finset.card_le_card fun key hkey => hseen key (List.mem_toFinset.mp hkey)
    obtain ⟨room, hcapacity⟩ : ∃ room, cache.capacity = front.length + 1 + (room + 1) :=
      ⟨cache.capacity - front.length - 2, by omega⟩
    refine ⟨⟨path, modified, size, file⟩ :: front, back.take room, ?_, fun newer hnewer => ?_⟩
    · show (_ :: cache.others path).take cache.capacity = _
      rw [hothers, hcapacity, ← List.cons_append, ← List.length_cons, List.take_length_add_append,
        List.take_succ_cons]
    · rcases List.mem_cons.mp hnewer with rfl | hnewer
      · exact hused path rfl hspares
      · exact hfront newer hnewer
  | invalidate path => exact h.others hspares
  | invalidateAll => exact hspares.elim

theorem Stands.run (h : cache.Stands seen entry) (horderly : cache.IsOrderly)
    (hspares : ∀ operation ∈ after, operation.Spares entry)
    (hused : ∀ used ∈ cache.usedPaths after,
      used.components ≠ entry.path.components → used.components ∈ seen)
    (hroom : seen.card < cache.capacity) : (cache.run after).Stands seen entry := by
  induction after generalizing cache with
  | nil => exact h
  | cons operation later ih =>
    obtain ⟨hfirst, hlater⟩ := List.forall_mem_cons.mp hspares
    refine ih (h.perform horderly hfirst (fun used hmem => ?_) hroom) (horderly.perform operation)
      hlater (fun used hmem => ?_) ?_
    · exact hused used (List.mem_append_left _ (Option.mem_toList.mpr hmem))
    · exact hused used (List.mem_append_right _ hmem)
    · rwa [capacity_perform]

/-- An entry in front that nothing drops stays, as long as the other paths that are used are fewer
than the cache has room for. -/
theorem mem_run_of_spares (horderly : cache.IsOrderly) (hfront : cache.entries.head? = some entry)
    (hspares : ∀ operation ∈ after, operation.Spares entry)
    (hroom : (cache.othersUsed entry.path after).card < cache.capacity) :
    entry ∈ (cache.run after).entries := by
  obtain ⟨back, hentries⟩ := List.head?_eq_some_iff.mp hfront
  have hstands : cache.Stands (cache.othersUsed entry.path after) entry :=
    ⟨[], back, hentries, by nofun⟩
  refine (hstands.run horderly hspares (fun used hused hne => ?_) hroom).mem
  exact Finset.mem_erase.mpr ⟨hne, List.mem_toFinset.mpr (List.mem_map_of_mem hused)⟩

theorem head_perform_of_used {used : Path} (h : cache.usedPath? operation = some used)
    (hroom : 0 < cache.capacity) : ∃ entry, (cache.perform operation).entries.head? = some entry
      ∧ entry.path.components = used.components := by
  cases operation with
  | get path modified size =>
    obtain ⟨file, hfile, rfl⟩ := Option.map_eq_some_iff.mp h
    obtain ⟨-, hget⟩ | ⟨found, hfound, -, -, hget⟩ | ⟨found, -, -, hget⟩ :=
      get_cases (isEnabled_of_get hfile) path modified size
    · rw [hget] at hfile
      cases hfile
    · refine ⟨found, ?_, (mem_of_entry_eq hfound).2⟩
      rw [perform, hget]
      rfl
    · rw [hget] at hfile
      cases hfile
  | insert path modified size file =>
    obtain rfl := Option.some_inj.mp h
    refine ⟨⟨path, modified, size, file⟩, ?_, rfl⟩
    show ((_ :: cache.others path).take cache.capacity).head? = _
    rw [List.head?_take, if_neg (by omega)]
    rfl
  | invalidate | invalidateAll => cases h

/-- An entry that is the latest when its path is used stays, as long as nothing drops it and the
other paths that are used are fewer than the cache has room for. -/
theorem exists_mem_run_of_used {use : CacheOperation} {used : Path}
    (huse : (run { capacity } before).usedPath? use = some used)
    (hpath : used.components = entry.path.components)
    (hlatest : IsLatest (before ++ [use]) entry)
    (hspares : ∀ operation ∈ after, operation.Spares entry)
    (hroom : ((run { capacity } (before ++ [use])).othersUsed entry.path after).card < capacity) :
    ∃ found ∈ (run { capacity } (before ++ use :: after)).entries,
      found.path.components = entry.path.components := by
  have hcapacity : ∀ history, (run { capacity } history).capacity = capacity := capacity_run _
  have hrun : (run { capacity } before).perform use = run { capacity } (before ++ [use]) :=
    (run_append { capacity } before [use]).symm
  obtain ⟨found, hfront, hfound⟩ := head_perform_of_used huse (by rw [hcapacity]; omega)
  rw [hrun] at hfront
  rw [hpath] at hfound
  have hmem : found ∈ (run { capacity } (before ++ [use])).entries := List.mem_of_head? hfront
  obtain ⟨hmodified, hsize, -⟩ := hlatest.unique (isLatest_of_mem hmem) hfound.symm
  refine ⟨found, ?_, hfound⟩
  rw [List.append_cons, run_append]
  refine mem_run_of_spares (isOrderly_run _ _) hfront (fun operation hoperation => ?_) ?_
  · exact (hspares operation hoperation).congr hfound.symm hmodified hsize
  · rw [hcapacity, othersUsed, hfound]
    exact hroom

theorem usedPath_of_records (cache : AnalysisCache) (h : operation.Records entry) :
    ∃ used, cache.usedPath? operation = some used ∧ used.components = entry.path.components := by
  cases operation with
  | insert path modified size file => exact ⟨path, rfl, h.1⟩
  | get | invalidate | invalidateAll => exact h.elim

/-- The latest entry of a path that has been used recently is there. -/
theorem exists_mem_run_of_isRecent (hlatest : IsLatest history entry)
    (hrecent : IsRecent capacity history entry.path) :
    ∃ found ∈ (run { capacity } history).entries,
      found.path.components = entry.path.components := by
  obtain ⟨before, insertion, after, rfl, hrecords, hspares⟩ := hlatest
  obtain ⟨before', use, after', used, heq, huse, hpath, hroom⟩ := hrecent
  obtain ⟨between, rfl, hlate⟩ | ⟨between, rfl, hlate⟩ := List.append_eq_append_iff.mp heq
  · -- The path was used when or after it was inserted.
    obtain ⟨spared, hspared, rfl⟩ :
        ∃ spared, between ++ [use] = insertion :: spared ∧ after = spared ++ after' := by
      cases between with
      | nil =>
        obtain ⟨rfl, rfl⟩ := List.cons_eq_cons.mp hlate
        exact ⟨[], rfl, rfl⟩
      | cons first between =>
        obtain ⟨rfl, rfl⟩ := List.cons_eq_cons.mp hlate
        exact ⟨between ++ [use], rfl, by simp⟩
    rw [heq]
    refine exists_mem_run_of_used huse hpath ⟨before, insertion, spared, ?_, hrecords, ?_⟩ ?_ hroom
    · rw [List.append_assoc, hspared]
    · exact fun operation hmem => hspares operation (List.mem_append_left _ hmem)
    · exact fun operation hmem => hspares operation (List.mem_append_right _ hmem)
  · -- It was inserted later, and that was a use as well.
    obtain ⟨used', hinsert, hpath'⟩ :=
      usedPath_of_records (run { capacity } (before' ++ between)) hrecords
    refine exists_mem_run_of_used hinsert hpath' (.of_records hrecords) hspares ?_
    cases between with
    | nil =>
      obtain ⟨rfl, rfl⟩ := List.cons_eq_cons.mp hlate
      rwa [List.append_nil]
    | cons first between =>
      obtain ⟨rfl, rfl⟩ := List.cons_eq_cons.mp hlate
      refine (Finset.card_le_card ?_).trans_lt hroom
      show _ ⊆ othersUsed _ _ (between ++ insertion :: after)
      rw [List.append_cons before' use between, List.append_assoc, run_append,
        List.append_cons between insertion after]
      exact othersUsed_subset _ _ _ _

theorem IsOrderly.get_eq (h : cache.IsOrderly) (hentry : entry ∈ cache.entries)
    (hpath : entry.path.components = path.components) :
    (cache.get path entry.modified entry.size).1 = some entry.file := by
  have hfound := h.entry_eq hentry hpath
  obtain ⟨hnone, -⟩ | ⟨found, hsame, -, -, hget⟩ | ⟨found, hsame, hstale, -⟩ :=
    get_cases (h.isEnabled hentry) path entry.modified entry.size
  · rw [hnone] at hfound
    cases hfound
  · obtain rfl : found = entry := Option.some_inj.mp (hsame.symm.trans hfound)
    rw [hget]
  · obtain rfl : found = entry := Option.some_inj.mp (hsame.symm.trans hfound)
    exact absurd ⟨rfl, rfl⟩ hstale

/-! ### The counts -/

theorem lookups_append (history : List CacheOperation) (operation : CacheOperation) :
    lookups (history ++ [operation])
      = if operation.isInvalidateAll then 0
        else lookups history + if operation.isGet then 1 else 0 := by
  rw [lookups, List.reverse_append, List.reverse_singleton, List.singleton_append]
  cases operation <;> simp [lookups, isInvalidateAll, isGet]

theorem hits_add_misses_perform (h : cache.isEnabled = true) (operation : CacheOperation) :
    (cache.perform operation).hits + (cache.perform operation).misses
      = if operation.isInvalidateAll then 0
        else cache.hits + cache.misses + if operation.isGet then 1 else 0 := by
  cases operation with
  | get path modified size =>
    show (cache.get path modified size).2.hits + (cache.get path modified size).2.misses
      = cache.hits + cache.misses + 1
    obtain ⟨-, hget⟩ | ⟨entry, -, -, -, hget⟩ | ⟨entry, -, -, hget⟩ :=
      get_cases h path modified size
    · rw [hget]
      exact (Nat.add_assoc _ _ _).symm
    · rw [hget]
      exact Nat.add_right_comm _ _ _
    · rw [hget]
      exact (Nat.add_assoc _ _ _).symm
  | insert | invalidate | invalidateAll => rfl

theorem lookups_run (hcapacity : 0 < capacity) (history : List CacheOperation) :
    (run { capacity } history).hits + (run { capacity } history).misses = lookups history := by
  induction history using List.reverseRecOn with
  | nil => rfl
  | append_singleton history operation ih =>
    have henabled : (run { capacity } history).isEnabled = true := by
      have heq : (run { capacity } history).capacity = capacity := capacity_run _ _
      rw [isEnabled, heq, bne_iff_ne]
      omega
    rw [run_append]
    exact (hits_add_misses_perform henabled operation).trans
      (by rw [ih, lookups_append])

/-! ### Histories -/

/-- A cache is a map of bounded size.  It never has more entries than room; it serves a file only
if this is what the latest insertion of the path recorded, with the time and the size that are
asked for, and nothing has dropped it since; it does serve such a file if, since a use of the path,
fewer other paths were used than there is room for; and it counts the lookups since it was
cleared.  Without any room a lookup misses and changes nothing, not even the counts. -/
theorem run_remembers (capacity : Nat) (history : List CacheOperation) :
    let cache := run { capacity } history
    cache.entries.length ≤ capacity
      ∧ (∀ path modified size file, (cache.get path modified size).1 = some file →
        IsLatest history ⟨path, modified, size, file⟩)
      ∧ (∀ path modified size file, IsLatest history ⟨path, modified, size, file⟩ →
        IsRecent capacity history path → (cache.get path modified size).1 = some file)
      ∧ (0 < capacity → cache.hits + cache.misses = lookups history)
      ∧ (capacity = 0 → ∀ path modified size, cache.get path modified size = (none, cache)) := by
  intro cache
  have horderly : cache.IsOrderly := isOrderly_run capacity history
  have hcapacity : cache.capacity = capacity := capacity_run _ _
  refine ⟨hcapacity ▸ horderly.length_le, fun path modified size file hget => ?_,
    fun path modified size file hlatest hrecent => ?_, fun h => lookups_run h history,
    fun hzero path modified size => ?_⟩
  · obtain ⟨entry, hentry, hpath, rfl, rfl, rfl⟩ := exists_of_get hget
    exact (isLatest_of_mem hentry).congr hpath rfl rfl rfl
  · obtain ⟨found, hfound, hpath⟩ := exists_mem_run_of_isRecent hlatest hrecent
    obtain ⟨rfl, rfl, rfl⟩ := (isLatest_of_mem hfound).unique hlatest hpath
    exact horderly.get_eq hfound hpath
  · refine get_of_not_isEnabled ?_ path modified size
    rw [isEnabled, hcapacity, hzero]
    rfl

/-- A short text that has been analyzed. -/
def shortText : AnalyzedFile := .make ⟨"a"⟩ "a" "text" none {}

/-- With room for two, a path that is looked up again outlives one that was inserted after it. -/
theorem run_remembers_used :
    let history : List CacheOperation := [.insert ⟨"a"⟩ 1 4 shortText,
      .insert ⟨"b"⟩ 2 4 shortText, .get ⟨"a"⟩ 1 4, .insert ⟨"c"⟩ 3 4 shortText]
    IsLatest history ⟨⟨"a"⟩, 1, 4, shortText⟩ ∧ IsRecent 2 history ⟨"a"⟩
      ∧ ((run { capacity := 2 } history).get ⟨"a"⟩ 1 4).1 = some shortText := by
  intro history
  have hlatest : IsLatest history ⟨⟨"a"⟩, 1, 4, shortText⟩ := by
    refine ⟨[], _, _, rfl, ⟨rfl, rfl, rfl, rfl⟩, ?_⟩
    have hb : components ⟨"b"⟩ ≠ components ⟨"a"⟩ := by decide
    have hc : components ⟨"c"⟩ ≠ components ⟨"a"⟩ := by decide
    simpa only [List.forall_mem_cons, List.not_mem_nil, false_imp_iff, implies_true, and_true]
      using ⟨hb, fun _ => ⟨rfl, rfl⟩, hc⟩
  have hrecent : IsRecent 2 history ⟨"a"⟩ := by
    -- Since the lookup of `a` only `c` has been used.
    refine ⟨[.insert ⟨"a"⟩ 1 4 shortText, .insert ⟨"b"⟩ 2 4 shortText], .get ⟨"a"⟩ 1 4, _, ⟨"a"⟩,
      rfl, ?_, rfl, ?_⟩
    · decide
    · decide
  exact ⟨hlatest, hrecent, (run_remembers 2 history).2.2.1 _ _ _ _ hlatest hrecent⟩

end AnalysisCache

end SourceRetrieval
