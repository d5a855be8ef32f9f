/-
What a cache serves of a path while other paths are looked up and recorded.

* `get_get_of_ne` — a lookup does not change what is served of other paths;
* `Leads` — fewer than so many entries stand before an entry, and none of its path; such an
  entry is served (`Leads.get_eq`), and stays as long as there is room for those put before
  it (`Leads.take`).

Design notes: nothing is asked of the other entries.  They may be stale, of one path, or more
than there is room for.
-/
import SourceRetrieval.Proofs.Cache.Lookup

namespace SourceRetrieval.AnalysisCache

open SourceRetrieval.Path

variable {cache after : AnalysisCache} {entry newest : CacheEntry} {path other : Path}
  {modified size count room : Nat}

/-! ### The entries of other paths -/

theorem others_of_entries_eq (hentries : after.entries = cache.others path) :
    after.others path = cache.others path := by
  rw [others, hentries, others, List.filter_filter]
  simp only [Bool.and_self]

theorem others_of_entry_eq_none (h : cache.entry? path = none) :
    cache.others path = cache.entries := by
  refine List.filter_eq_self.mpr fun entry hentry => ?_
  rw [Bool.not_eq_true', ← Bool.not_eq_true, same_iff]
  exact ne_of_entry_eq_none h hentry

theorem find?_others_of_ne (h : path.components ≠ other.components) :
    (cache.others path).find? (·.path.same other) = cache.entry? other := by
  have hkept : (fun entry : CacheEntry =>
      decide ((!entry.path.same path) = true ∧ entry.path.same other = true))
        = fun entry => entry.path.same other := by
    funext entry
    rw [Bool.eq_iff_iff, decide_eq_true_eq, and_iff_right_iff_imp]
    intro hother
    rw [Bool.not_eq_true', ← Bool.not_eq_true, same_iff]
    exact fun hpath => h (hpath.symm.trans (same_iff.mp hother))
  rw [others, List.find?_filter, hkept]
  rfl

/-! ### Lookups of other paths -/

/-- What is served is the file of the entry, if this is fresh. -/
theorem fst_get_eq (cache : AnalysisCache) (path : Path) (modified size : Nat) :
    (cache.get path modified size).1 = if cache.isEnabled then
      ((cache.entry? path).filter (isFresh · modified size)).map (·.file) else none := by
  rw [get]
  cases cache.isEnabled with
  | false => rfl
  | true =>
    cases cache.entry? path with
    | none => rfl
    | some entry => cases hfresh : isFresh entry modified size <;> simp [Option.filter, hfresh]

theorem entry_get_of_ne (h : path.components ≠ other.components) :
    entry? (cache.get path modified size).2 other = cache.entry? other := by
  cases henabled : cache.isEnabled with
  | false => rw [get_of_not_isEnabled henabled]
  | true =>
    obtain ⟨-, hget⟩ | ⟨entry, hentry, -, -, hget⟩ | ⟨entry, -, -, hget⟩ :=
      get_cases henabled path modified size
    · rw [hget]
      rfl
    · rw [hget]
      have hpath := (mem_of_entry_eq hentry).2
      have hne : (entry.path.same other) = false := by
        rw [← Bool.not_eq_true, same_iff, hpath]
        exact h
      unfold entry?
      rw [List.find?_cons, hne]
      exact find?_others_of_ne h
    · rw [hget]
      exact find?_others_of_ne h

/-- A lookup does not change what is served of other paths. -/
theorem get_get_of_ne (h : path.components ≠ other.components) {modified' size' : Nat} :
    ((cache.get path modified size).2.get other modified' size').1
      = (cache.get other modified' size').1 := by
  rw [fst_get_eq, fst_get_eq, entry_get_of_ne h, isEnabled, capacity_get]
  rfl

/-! ### What a lookup leaves of its own path -/

theorem exists_entries_get {file : AnalyzedFile}
    (h : (cache.get path modified size).1 = some file) :
    ∃ entry, entry.path.components = path.components ∧ entry.modified = modified
      ∧ entry.size = size ∧ entry.file = file
      ∧ (cache.get path modified size).2.entries = entry :: cache.others path := by
  obtain ⟨-, hget⟩ | ⟨entry, hentry, hmodified, hsize, hget⟩ | ⟨entry, -, -, hget⟩ :=
    get_cases (isEnabled_of_get h) path modified size
  · rw [hget] at h
    cases h
  · rw [hget] at h ⊢
    exact ⟨entry, (mem_of_entry_eq hentry).2, hmodified, hsize, Option.some_inj.mp h, rfl⟩
  · rw [hget] at h
    cases h

theorem entries_get_of_eq_none (henabled : cache.isEnabled = true)
    (h : (cache.get path modified size).1 = none) :
    (cache.get path modified size).2.entries = cache.others path := by
  obtain ⟨hnone, hget⟩ | ⟨entry, -, -, -, hget⟩ | ⟨entry, -, -, hget⟩ :=
    get_cases henabled path modified size
  · rw [hget, others_of_entry_eq_none hnone]
  · rw [hget] at h
    cases h
  · rw [hget]

/-! ### Entries in front -/

/-- Fewer than so many entries stand before the entry, and none of them is of its path. -/
def Leads (cache : AnalysisCache) (count : Nat) (entry : CacheEntry) : Prop :=
  ∃ front back, cache.entries = front ++ entry :: back ∧ front.length < count
    ∧ ∀ newer ∈ front, newer.path.components ≠ entry.path.components

theorem Leads.get_eq (h : cache.Leads count entry) (henabled : cache.isEnabled = true)
    (hpath : entry.path.components = path.components) :
    (cache.get path entry.modified entry.size).1 = some entry.file := by
  obtain ⟨front, back, hentries, -, hfront⟩ := h
  have hnone : front.find? (·.path.same path) = none := by
    refine List.find?_eq_none.mpr fun newer hnewer => ?_
    rw [same_iff, ← hpath]
    exact hfront newer hnewer
  have hentry : cache.entry? path = some entry := by
    unfold entry?
    rw [hentries, List.find?_append, hnone, Option.none_or]
    exact List.find?_cons_of_pos (same_iff.mpr hpath)
  have hfresh : isFresh entry entry.modified entry.size = true := by simp [isFresh]
  simp only [fst_get_eq, henabled, hentry, if_true, Option.filter, hfresh, Option.map_some]

theorem leads_of_take (hcount : 0 < count) (hroom : 0 < room) {back : List CacheEntry}
    (hentries : after.entries = (entry :: back).take room) : after.Leads count entry := by
  obtain ⟨room, rfl⟩ : ∃ more, room = more + 1 := ⟨room - 1, by omega⟩
  exact ⟨[], back.take room, hentries, hcount, by nofun⟩

/-- To take out the entries of another path leaves an entry in front. -/
theorem Leads.others (h : cache.Leads count entry)
    (hpath : entry.path.components ≠ path.components)
    (hentries : after.entries = cache.others path) : after.Leads count entry := by
  obtain ⟨front, back, hbefore, hlength, hfront⟩ := h
  refine ⟨front.filter (!·.path.same path), back.filter (!·.path.same path), ?_,
    Nat.lt_of_le_of_lt (List.length_filter_le _ _) hlength,
    fun newer hnewer => hfront newer (List.mem_filter.mp hnewer).1⟩
  have hkept : (!entry.path.same path) = true := by
    rw [Bool.not_eq_true', ← Bool.not_eq_true, same_iff]
    exact hpath
  rw [hentries, AnalysisCache.others, hbefore, List.filter_append, List.filter_cons,
    if_pos hkept]

/-- So does to put one of that path before them, as long as there is room. -/
theorem Leads.take (h : cache.Leads count entry)
    (hpath : entry.path.components ≠ path.components)
    (hnewest : newest.path.components = path.components) (hroom : count < room)
    (hentries : after.entries = (newest :: cache.others path).take room) :
    after.Leads (count + 1) entry := by
  obtain ⟨front, back, hothers, hlength, hfront⟩ :
      { cache with entries := cache.others path }.Leads count entry := h.others hpath rfl
  obtain ⟨more, rfl⟩ : ∃ more, room = (newest :: front).length + (more + 1) :=
    ⟨room - front.length - 2, by rw [List.length_cons]; omega⟩
  refine ⟨newest :: front, back.take more, ?_, Nat.succ_lt_succ hlength, ?_⟩
  · rw [hentries, show cache.others path = _ from hothers, ← List.cons_append,
      List.take_length_add_append, List.take_succ_cons]
  · refine List.forall_mem_cons.mpr ⟨?_, hfront⟩
    rw [hnewest]
    exact hpath.symm

end SourceRetrieval.AnalysisCache
