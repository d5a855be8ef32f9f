/-
The entries of a cache and what a lookup does to them.

* `get_cases` — a cache that is switched on has no entry of the path, or serves it and
  puts it in front, or drops it because its file has changed;
* `exists_of_get` — what a cache serves is the analysis of an entry of the same path,
  time and size;
* `mem_of_mem_get` and `mem_of_mem_insert` — a lookup adds no entry, and an insertion
  only the one it records.
-/
import SourceRetrieval.Cache
import SourceRetrieval.Path.Order

namespace SourceRetrieval.AnalysisCache

open SourceRetrieval.Path

variable {cache : AnalysisCache} {entry : CacheEntry} {path : Path} {modified size : Nat}

/-! ### The entries of a path -/

theorem mem_others_iff : entry ∈ cache.others path ↔
    entry ∈ cache.entries ∧ entry.path.components ≠ path.components := by
  rw [others, List.mem_filter, Bool.not_eq_true', ← Bool.not_eq_true, same_iff]

theorem mem_others (h : entry ∈ cache.others path) : entry ∈ cache.entries :=
  (mem_others_iff.mp h).1

theorem mem_of_entry_eq (h : cache.entry? path = some entry) :
    entry ∈ cache.entries ∧ entry.path.components = path.components := by
  have hsame : entry.path.same path = true := by simpa using List.find?_some h
  exact ⟨List.mem_of_find?_eq_some h, same_iff.mp hsame⟩

theorem ne_of_entry_eq_none (h : cache.entry? path = none) (hentry : entry ∈ cache.entries) :
    entry.path.components ≠ path.components := by
  have hne := List.find?_eq_none.mp h entry hentry
  rwa [same_iff] at hne

/-! ### Lookups -/

theorem get_of_not_isEnabled (h : cache.isEnabled = false) (path : Path) (modified size : Nat) :
    cache.get path modified size = (none, cache) := by
  rw [get, h]
  rfl

/-- All that a lookup can do to a cache that is switched on. -/
theorem get_cases (h : cache.isEnabled = true) (path : Path) (modified size : Nat) :
    (cache.entry? path = none
      ∧ cache.get path modified size = (none, { cache with misses := cache.misses + 1 }))
    ∨ (∃ entry, cache.entry? path = some entry ∧ entry.modified = modified ∧ entry.size = size
      ∧ cache.get path modified size = (some entry.file,
        { cache with entries := entry :: cache.others path, hits := cache.hits + 1 }))
    ∨ (∃ entry, cache.entry? path = some entry ∧ ¬(entry.modified = modified ∧ entry.size = size)
      ∧ cache.get path modified size
        = (none, { cache with entries := cache.others path, misses := cache.misses + 1 })) := by
  have hfresh : ∀ entry : CacheEntry, isFresh entry modified size = true
      ↔ entry.modified = modified ∧ entry.size = size := by
    intro entry
    rw [isFresh, Bool.and_eq_true, decide_eq_true_eq, decide_eq_true_eq]
  rw [get, h]
  cases hentry : cache.entry? path with
  | none => exact .inl ⟨rfl, rfl⟩
  | some entry =>
    right
    by_cases hcurrent : isFresh entry modified size = true
    · obtain ⟨hmodified, hsize⟩ := (hfresh entry).mp hcurrent
      exact .inl ⟨entry, rfl, hmodified, hsize, if_pos hcurrent⟩
    · exact .inr ⟨entry, rfl, fun heq => hcurrent ((hfresh entry).mpr heq), if_neg hcurrent⟩

theorem isEnabled_of_get {file : AnalyzedFile}
    (h : (cache.get path modified size).1 = some file) : cache.isEnabled = true := by
  cases henabled : cache.isEnabled with
  | true => rfl
  | false =>
    rw [get_of_not_isEnabled henabled] at h
    cases h

theorem exists_of_get {file : AnalyzedFile} (h : (cache.get path modified size).1 = some file) :
    ∃ entry ∈ cache.entries, entry.path.components = path.components
      ∧ entry.modified = modified ∧ entry.size = size ∧ entry.file = file := by
  obtain ⟨-, hget⟩ | ⟨entry, hentry, hmodified, hsize, hget⟩ | ⟨entry, -, -, hget⟩ :=
    get_cases (isEnabled_of_get h) path modified size
  · rw [hget] at h
    cases h
  · obtain ⟨hmem, hpath⟩ := mem_of_entry_eq hentry
    rw [hget] at h
    exact ⟨entry, hmem, hpath, hmodified, hsize, Option.some_inj.mp h⟩
  · rw [hget] at h
    cases h

theorem capacity_get (cache : AnalysisCache) (path : Path) (modified size : Nat) :
    (cache.get path modified size).2.capacity = cache.capacity := by
  cases h : cache.isEnabled with
  | false => rw [get_of_not_isEnabled h]
  | true =>
    obtain ⟨-, hget⟩ | ⟨entry, -, -, -, hget⟩ | ⟨entry, -, -, hget⟩ :=
      get_cases h path modified size <;> rw [hget]

theorem mem_of_mem_get (h : entry ∈ (cache.get path modified size).2.entries) :
    entry ∈ cache.entries := by
  cases henabled : cache.isEnabled with
  | false => rwa [get_of_not_isEnabled henabled] at h
  | true =>
    obtain ⟨-, hget⟩ | ⟨found, hfound, -, -, hget⟩ | ⟨found, -, -, hget⟩ :=
      get_cases henabled path modified size
    · rwa [hget] at h
    · rw [hget] at h
      rcases List.mem_cons.mp h with rfl | h
      · exact (mem_of_entry_eq hfound).1
      · exact mem_others h
    · rw [hget] at h
      exact mem_others h

/-! ### Insertions -/

theorem mem_insert_cases {file : AnalyzedFile}
    (h : entry ∈ (cache.insert path modified size file).entries) :
    entry = ⟨path, modified, size, file⟩ ∨ entry ∈ cache.others path :=
  List.mem_cons.mp (List.mem_of_mem_take h)

theorem mem_of_mem_insert {file : AnalyzedFile}
    (h : entry ∈ (cache.insert path modified size file).entries) :
    entry = ⟨path, modified, size, file⟩ ∨ entry ∈ cache.entries :=
  (mem_insert_cases h).imp_right mem_others

end SourceRetrieval.AnalysisCache
