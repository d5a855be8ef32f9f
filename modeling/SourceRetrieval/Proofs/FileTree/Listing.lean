/-
What a file tree in memory lists.

A directory lists one entry for each first step on the way to the files below
it (`exists_leadsTo`, `exists_mem_leadsTo`), a directory if some file lies
further down, and the entries stand in the order of their paths
(`pairwise_list`).

Design notes: the files of a tree stand in the order of their paths, so those
reached through one entry are neighbours, and to merge neighbours is enough.
What a tree says about a path depends on its components alone.
-/
import SourceRetrieval.FileTree.Memory
import SourceRetrieval.Proofs.Path.Components

namespace SourceRetrieval

/-- One entry comes before another. -/
def DirEntry.Precedes (a b : DirEntry) : Prop := a.path.compare b.path = .lt

namespace MemoryTree

open SourceRetrieval.Path

/-- Whether a file of the tree has these components. -/
def Holds (memory : MemoryTree) (cs : List Component) : Prop :=
  ∃ file ∈ memory.files, file.path.components = cs

/-- Whether a file of the tree has these components and no file lies below it. -/
def IsLeaf (memory : MemoryTree) (cs : List Component) : Prop :=
  memory.Holds cs ∧ ∀ next rest, ¬memory.Holds (cs ++ next :: rest)

variable {memory : MemoryTree} {directory : Path}

theorem wellFormed_of_holds {cs : List Component} (h : memory.Holds cs) : WellFormed cs := by
  obtain ⟨file, -, rfl⟩ := h
  exact wellFormed_components _

/-- No file lies below one that is as deep as any. -/
theorem isLeaf_of_length_le {cs : List Component}
    (h : ∀ path ∈ memory.files.map (·.path), path.components.length ≤ cs.length)
    (hholds : memory.Holds cs) : memory.IsLeaf cs := by
  refine ⟨hholds, fun next rest hbelow => ?_⟩
  obtain ⟨below, hmem, hpath⟩ := hbelow
  have hlength := h _ (List.mem_map_of_mem hmem)
  rw [hpath, List.length_append, List.length_cons] at hlength
  omega

/-- If all files are equally deep, none lies below another. -/
theorem isLeaf_of_length {n : Nat}
    (h : ∀ path ∈ memory.files.map (·.path), path.components.length = n) {cs : List Component}
    (hholds : memory.Holds cs) : memory.IsLeaf cs := by
  refine isLeaf_of_length_le (fun path hpath => ?_) hholds
  obtain ⟨file, hfile, rfl⟩ := hholds
  exact Nat.le_of_eq ((h path hpath).trans (h _ (List.mem_map_of_mem hfile)).symm)

/-! ### The entries toward files -/

theorem entryToward?_eq_some_iff {file : MemoryFile} {entry : DirEntry} :
    entryToward? directory file = some entry ↔ ∃ c rest,
      file.path.components = directory.components ++ c :: rest
        ∧ entry = ⟨directory.join c.text, !rest.isEmpty, false⟩ := by
  rw [entryToward?]
  constructor
  · intro h
    split at h
    next c rest hunder =>
      exact ⟨c, rest, under?_eq_some_iff.mp hunder, (Option.some_inj.mp h).symm⟩
    next => exact absurd h (by simp)
  · rintro ⟨c, rest, hfile, rfl⟩
    rw [under?_eq_some_iff.mpr hfile]

/-- Entries toward files that stand in order stand in order, but may repeat. -/
theorem pairwise_entryToward? {files : List MemoryFile}
    (h : files.Pairwise MemoryFile.Precedes) :
    (files.filterMap (entryToward? directory)).Pairwise
      fun a b => a.path.compare b.path ≠ .gt := by
  refine List.pairwise_filterMap.mpr (h.imp ?_)
  intro file file' hlt entry hentry entry' hentry'
  obtain ⟨c, rest, hfile, rfl⟩ := entryToward?_eq_some_iff.mp hentry
  obtain ⟨c', rest', hfile', rfl⟩ := entryToward?_eq_some_iff.mp hentry'
  rw [MemoryFile.Precedes, Path.compare, hfile, hfile', compareComponents_append_left,
    compareComponents] at hlt
  rw [Path.compare, components_join (wellFormed_step hfile), components_join (wellFormed_step hfile'),
    compareComponents_append_left, compareComponents, compareComponents]
  -- Files behind different steps stand in the order of the steps, and files behind the same
  -- step have entries of the same path.
  cases hc : c.compare c' <;> simp_all [Ordering.then]

/-! ### Merging neighbours -/

theorem mergeEntries_cons (entry : DirEntry) (others : List DirEntry) :
    mergeEntries (entry :: others) = mergeEntries.step entry (mergeEntries others) := rfl

/-- An entry is merged with the first of the others if the two have the same path, and else put
in front of them. -/
theorem step_cases (entry : DirEntry) (others : List DirEntry) :
    (∃ next rest, others = next :: rest ∧ entry.path.components = next.path.components
        ∧ mergeEntries.step entry others
          = { entry with isDir := entry.isDir || next.isDir } :: rest)
      ∨ (∀ next rest, others = next :: rest → entry.path.components ≠ next.path.components)
        ∧ mergeEntries.step entry others = entry :: others := by
  unfold mergeEntries.step
  split
  next next rest =>
    split
    next hsame => exact .inl ⟨next, rest, rfl, same_iff.mp hsame, rfl⟩
    next hsame =>
      refine .inr ⟨fun next' rest' heq hpath => hsame (same_iff.mpr ?_), rfl⟩
      rw [hpath, (List.cons_eq_cons.mp heq).1]
  next => exact .inr ⟨by nofun, rfl⟩

/-- What is in a merged list has the path of an entry merged. -/
theorem exists_path_of_mem_mergeEntries {entries : List DirEntry} {entry : DirEntry}
    (h : entry ∈ mergeEntries entries) :
    ∃ e ∈ entries, e.path = entry.path ∧ e.isSymlink = entry.isSymlink := by
  induction entries generalizing entry with
  | nil => exact absurd h List.not_mem_nil
  | cons first others ih =>
    have hold : ∀ e ∈ mergeEntries others,
        ∃ e' ∈ first :: others, e'.path = e.path ∧ e'.isSymlink = e.isSymlink := by
      intro e he
      obtain ⟨e', he', hpath⟩ := ih he
      exact ⟨e', List.mem_cons_of_mem _ he', hpath⟩
    rw [mergeEntries_cons] at h
    obtain ⟨next, rest, hmerged, -, hstep⟩ | ⟨-, hstep⟩ :=
      step_cases first (mergeEntries others)
    · rw [hstep] at h
      rcases List.mem_cons.mp h with rfl | h
      · exact ⟨first, List.mem_cons_self, rfl, rfl⟩
      · rw [hmerged] at hold
        exact hold entry (List.mem_cons_of_mem _ h)
    · rw [hstep] at h
      rcases List.mem_cons.mp h with rfl | h
      · exact ⟨entry, List.mem_cons_self, rfl, rfl⟩
      · exact hold entry h

/-- A directory in a merged list has the path of a directory merged. -/
theorem exists_dir_of_mem_mergeEntries {entries : List DirEntry} {entry : DirEntry}
    (h : entry ∈ mergeEntries entries) (hdir : entry.isDir = true) :
    ∃ e ∈ entries, e.path.components = entry.path.components ∧ e.isDir = true := by
  induction entries generalizing entry with
  | nil => exact absurd h List.not_mem_nil
  | cons first others ih =>
    have hold : ∀ e ∈ mergeEntries others, e.isDir = true →
        ∃ e' ∈ first :: others, e'.path.components = e.path.components ∧ e'.isDir = true := by
      intro e he hdir
      obtain ⟨e', he', hpath⟩ := ih he hdir
      exact ⟨e', List.mem_cons_of_mem _ he', hpath⟩
    rw [mergeEntries_cons] at h
    obtain ⟨next, rest, hmerged, hsame, hstep⟩ | ⟨-, hstep⟩ :=
      step_cases first (mergeEntries others)
    · rw [hstep] at h
      rw [hmerged] at hold
      rcases List.mem_cons.mp h with rfl | h
      · -- The entry stands for `first` and for all that `next` stands for.
        rcases Bool.or_eq_true_iff.mp hdir with hfirst | hnext
        · exact ⟨first, List.mem_cons_self, rfl, hfirst⟩
        · obtain ⟨e, he, hpath, hedir⟩ := hold next List.mem_cons_self hnext
          exact ⟨e, he, hpath.trans hsame.symm, hedir⟩
      · exact hold entry (List.mem_cons_of_mem _ h) hdir
    · rw [hstep] at h
      rcases List.mem_cons.mp h with rfl | h
      · exact ⟨entry, List.mem_cons_self, rfl, hdir⟩
      · exact hold entry h hdir

/-- Every entry is merged into one of the same path, a directory if it is one. -/
theorem exists_mem_mergeEntries {entries : List DirEntry} {entry : DirEntry}
    (h : entry ∈ entries) :
    ∃ e ∈ mergeEntries entries, e.path.components = entry.path.components
      ∧ (entry.isDir = true → e.isDir = true) := by
  induction entries with
  | nil => exact absurd h List.not_mem_nil
  | cons first others ih =>
    rw [mergeEntries_cons]
    obtain ⟨next, rest, hmerged, hsame, hstep⟩ | ⟨-, hstep⟩ :=
      step_cases first (mergeEntries others)
    · -- Both `first` and what `next` stands for go into one entry.
      rw [hstep]
      rcases List.mem_cons.mp h with rfl | h
      · exact ⟨_, List.mem_cons_self, rfl, fun hdir => by rw [hdir, Bool.true_or]⟩
      · obtain ⟨e, he, hpath, hdir⟩ := ih h
        rw [hmerged] at he
        rcases List.mem_cons.mp he with rfl | he
        · exact ⟨_, List.mem_cons_self, hsame.trans hpath, fun h => by rw [hdir h, Bool.or_true]⟩
        · exact ⟨e, List.mem_cons_of_mem _ he, hpath, hdir⟩
    · rw [hstep]
      rcases List.mem_cons.mp h with rfl | h
      · exact ⟨entry, List.mem_cons_self, rfl, id⟩
      · obtain ⟨e, he, hpath, hdir⟩ := ih h
        exact ⟨e, List.mem_cons_of_mem _ he, hpath, hdir⟩

/-- Entries that stand in order are merged to entries that do so without repetition. -/
theorem pairwise_mergeEntries {entries : List DirEntry}
    (h : entries.Pairwise fun a b => a.path.compare b.path ≠ .gt) :
    (mergeEntries entries).Pairwise DirEntry.Precedes := by
  induction entries with
  | nil => exact List.Pairwise.nil
  | cons first others ih =>
    obtain ⟨hfirst, hothers⟩ := List.pairwise_cons.mp h
    have hmerged := ih hothers
    rw [mergeEntries_cons]
    obtain ⟨next, rest, heq, hsame, hstep⟩ | ⟨hne, hstep⟩ :=
      step_cases first (mergeEntries others)
    · -- The first entry takes the place of `next`, which has the same path.
      rw [heq] at hmerged
      rw [hstep]
      obtain ⟨hnext, hrest⟩ := List.pairwise_cons.mp hmerged
      refine List.pairwise_cons.mpr ⟨fun e he => ?_, hrest⟩
      rw [DirEntry.Precedes, Path.compare, hsame]
      exact hnext e he
    · rw [hstep]
      refine List.pairwise_cons.mpr ⟨fun e he => ?_, hmerged⟩
      obtain ⟨next, rest, heq⟩ := List.exists_cons_of_ne_nil (List.ne_nil_of_mem he)
      -- The order given allows the same path, but then the two would have been merged.
      have hlt : first.path.compare next.path = .lt := by
        obtain ⟨e', he', hpath, -⟩ := exists_path_of_mem_mergeEntries
          (show next ∈ mergeEntries others from heq ▸ List.mem_cons_self)
        have hle := hfirst e' he'
        rw [hpath] at hle
        have hdiffer : first.path.compare next.path ≠ .eq := fun h =>
          hne next rest heq (compare_eq_iff.mp h)
        cases hc : first.path.compare next.path <;> simp_all
      rw [heq] at he hmerged
      rcases List.mem_cons.mp he with rfl | he
      · exact hlt
      · exact Std.TransCmp.lt_trans hlt ((List.pairwise_cons.mp hmerged).1 e he)

/-! ### What is denied and what is there -/

/-- Whether nothing may be done with a path of these components. -/
def Denies (memory : MemoryTree) (cs : List Component) : Prop :=
  ∃ path ∈ memory.denied, path.components <+: cs

theorem Denies.append {cs : List Component} (h : memory.Denies cs) (ds : List Component) :
    memory.Denies (cs ++ ds) := by
  obtain ⟨path, hpath, hlead⟩ := h
  exact ⟨path, hpath, hlead.trans (List.prefix_append _ _)⟩

theorem any_isUnder_iff {path : Path} :
    memory.denied.any path.isUnder = true ↔ memory.Denies path.components := by
  rw [List.any_eq_true]
  refine exists_congr fun q => and_congr_right fun _ => ?_
  rw [isUnder_iff]
  exact exists_congr fun _ => eq_comm

theorem checkAccess_eq_ok_iff {path : Path} :
    memory.checkAccess path = .ok () ↔ ¬memory.Denies path.components := by
  rw [checkAccess, ← any_isUnder_iff]
  split <;> simp_all

theorem checkAccess_eq_error {path : Path} (h : memory.Denies path.components) :
    memory.checkAccess path = .error ⟨.permissionDenied, "permission denied: " ++ path.text⟩ := by
  rw [checkAccess, if_pos (any_isUnder_iff.mpr h)]

/-- No two files of a tree have the same components. -/
theorem eq_of_components_eq {a b : MemoryFile} (ha : a ∈ memory.files) (hb : b ∈ memory.files)
    (h : a.path.components = b.path.components) : a = b :=
  eq_of_pairwise_lt MemoryFile.path memory.ordered ha hb h

theorem file?_eq_some_iff {path : Path} {file : MemoryFile} :
    memory.file? path = some file
      ↔ file ∈ memory.files ∧ file.path.components = path.components := by
  have hfound : ∀ found, memory.file? path = some found →
      found ∈ memory.files ∧ found.path.components = path.components := by
    intro found h
    have hsame : found.path.same path = true := by simpa using List.find?_some h
    exact ⟨List.mem_of_find?_eq_some h, same_iff.mp hsame⟩
  refine ⟨hfound file, fun ⟨hmem, hpath⟩ => ?_⟩
  obtain ⟨found, h⟩ : ∃ found, memory.file? path = some found := by
    rw [← Option.isSome_iff_exists, file?, List.find?_isSome]
    exact ⟨file, hmem, same_iff.mpr hpath⟩
  obtain ⟨hmem', hpath'⟩ := hfound found h
  rw [h, eq_of_components_eq hmem' hmem (hpath'.trans hpath.symm)]

theorem isSome_file?_iff {path : Path} :
    (memory.file? path).isSome = true ↔ memory.Holds path.components := by
  rw [Option.isSome_iff_exists]
  exact exists_congr fun _ => file?_eq_some_iff

/-! ### Listing -/

/-- The entry of a directory through which the files behind a step are reached. -/
structure LeadsTo (memory : MemoryTree) (directory : Path) (c : Component) (entry : DirEntry) :
    Prop where
  path : entry.path = directory.join c.text
  components : entry.path.components = directory.components ++ [c]
  isSymlink : entry.isSymlink = false
  holds : ∃ rest, memory.Holds (directory.components ++ c :: rest)
  isDir_iff : entry.isDir = true
    ↔ ∃ next rest, memory.Holds (directory.components ++ c :: next :: rest)

theorem list_eq_ok {entries : List DirEntry} (h : memory.list directory = .ok entries) :
    ¬memory.Denies directory.components
      ∧ entries = mergeEntries (memory.files.filterMap (entryToward? directory)) := by
  rw [list] at h
  by_cases hdenied : memory.Denies directory.components
  · rw [checkAccess_eq_error hdenied] at h
    cases h
  · refine ⟨hdenied, ?_⟩
    rw [checkAccess_eq_ok_iff.mpr hdenied] at h
    simp only [bind, Except.bind] at h
    split at h
    · split at h <;> cases h
    · exact (Except.ok.inj h).symm

theorem list_of_holds {c : Component} {rest : List Component}
    (hdenied : ¬memory.Denies directory.components)
    (h : memory.Holds (directory.components ++ c :: rest)) :
    ∃ entries, memory.list directory = .ok entries := by
  obtain ⟨file, hfile, hpath⟩ := h
  obtain ⟨entry, hentry⟩ : ∃ entry, entryToward? directory file = some entry :=
    ⟨_, entryToward?_eq_some_iff.mpr ⟨c, rest, hpath, rfl⟩⟩
  obtain ⟨merged, hmerged, -⟩ :=
    exists_mem_mergeEntries (List.mem_filterMap.mpr ⟨file, hfile, hentry⟩)
  refine ⟨mergeEntries (memory.files.filterMap (entryToward? directory)), ?_⟩
  rw [list, checkAccess_eq_ok_iff.mpr hdenied]
  simp only [bind, Except.bind]
  split
  next hnil =>
    rw [hnil] at hmerged
    exact absurd hmerged List.not_mem_nil
  next => rfl

theorem components_join_of_holds {c : Component} {rest : List Component}
    (h : memory.Holds (directory.components ++ c :: rest)) :
    (directory.join c.text).components = directory.components ++ [c] := by
  obtain ⟨file, -, hfile⟩ := h
  exact components_join (wellFormed_step hfile)

/-- Whether the entry behind a step is a directory is whether some file lies further down. -/
theorem isDir_iff_of_mem_mergeEntries {c : Component} {entry : DirEntry}
    (hentry : entry ∈ mergeEntries (memory.files.filterMap (entryToward? directory)))
    (hpath : entry.path.components = directory.components ++ [c]) :
    entry.isDir = true ↔ ∃ next rest, memory.Holds (directory.components ++ c :: next :: rest) := by
  constructor
  · intro hdir
    obtain ⟨e, he, hsame, hedir⟩ := exists_dir_of_mem_mergeEntries hentry hdir
    obtain ⟨file, hfile, he⟩ := List.mem_filterMap.mp he
    obtain ⟨c', rest, hcomponents, rfl⟩ := entryToward?_eq_some_iff.mp he
    have hstep := (components_join_of_holds ⟨file, hfile, hcomponents⟩).symm.trans
      (hsame.trans hpath)
    obtain rfl : c' = c := by simpa using hstep
    cases rest with
    | nil => exact absurd hedir (by simp)
    | cons next rest => exact ⟨next, rest, file, hfile, hcomponents⟩
  · rintro ⟨next, rest, file, hfile, hcomponents⟩
    have he : entryToward? directory file = some ⟨directory.join c.text, true, false⟩ :=
      entryToward?_eq_some_iff.mpr ⟨c, next :: rest, hcomponents, rfl⟩
    obtain ⟨merged, hmerged, hsame, hdir⟩ :=
      exists_mem_mergeEntries (List.mem_filterMap.mpr ⟨file, hfile, he⟩)
    have hjoin := components_join_of_holds ⟨file, hfile, hcomponents⟩
    -- A path stands once in a merged list, so this entry is the one asked about.
    have heq : merged = entry :=
      eq_of_pairwise_lt DirEntry.path (pairwise_mergeEntries (pairwise_entryToward? memory.ordered))
        hmerged hentry (hsame.trans (hjoin.trans hpath.symm))
    exact heq ▸ hdir rfl

variable {entries : List DirEntry}

/-- The entries of a directory stand in the order of their paths, each once. -/
theorem pairwise_list (h : memory.list directory = .ok entries) :
    entries.Pairwise DirEntry.Precedes := by
  rw [(list_eq_ok h).2]
  exact pairwise_mergeEntries (pairwise_entryToward? memory.ordered)

/-- Every entry of a directory is reached by a step. -/
theorem exists_leadsTo (h : memory.list directory = .ok entries) {entry : DirEntry}
    (hentry : entry ∈ entries) : ∃ c, memory.LeadsTo directory c entry := by
  rw [(list_eq_ok h).2] at hentry
  obtain ⟨e, he, hpath, hlink⟩ := exists_path_of_mem_mergeEntries hentry
  obtain ⟨file, hfile, he⟩ := List.mem_filterMap.mp he
  obtain ⟨c, rest, hcomponents, rfl⟩ := entryToward?_eq_some_iff.mp he
  have hholds : memory.Holds (directory.components ++ c :: rest) := ⟨file, hfile, hcomponents⟩
  have hstep : entry.path.components = directory.components ++ [c] := by
    rw [← hpath]
    exact components_join_of_holds hholds
  exact ⟨c, hpath.symm, hstep, hlink.symm, ⟨rest, hholds⟩,
    isDir_iff_of_mem_mergeEntries hentry hstep⟩

/-- Every file below a directory is behind an entry. -/
theorem exists_mem_leadsTo (h : memory.list directory = .ok entries) {c : Component}
    {rest : List Component} (hholds : memory.Holds (directory.components ++ c :: rest)) :
    ∃ entry ∈ entries, memory.LeadsTo directory c entry := by
  obtain ⟨file, hfile, hcomponents⟩ := hholds
  have he := entryToward?_eq_some_iff.mpr ⟨c, rest, hcomponents, rfl⟩
  obtain ⟨entry, hentry, hsame, -⟩ :=
    exists_mem_mergeEntries (List.mem_filterMap.mpr ⟨file, hfile, he⟩)
  rw [← (list_eq_ok h).2] at hentry
  obtain ⟨c', hleads⟩ := exists_leadsTo h hentry
  have hstep := hleads.components.symm.trans
    (hsame.trans (components_join_of_holds ⟨file, hfile, hcomponents⟩))
  obtain rfl : c' = c := by simpa using hstep
  exact ⟨entry, hentry, hleads⟩

/-! ### What is known of a path -/

/-- What is known to be a file is one that may be looked at. -/
theorem file?_of_stat {path : Path} {known : FileStat}
    (h : (memory.stat path).toOption = some known) (hdir : known.isDir = false) :
    ¬memory.Denies path.components ∧ ∃ file, memory.file? path = some file
      ∧ known = ⟨file.content.size, file.modified, false⟩ := by
  by_cases hdenied : memory.Denies path.components
  · rw [stat, checkAccess_eq_error hdenied] at h
    cases h
  · refine ⟨hdenied, ?_⟩
    rw [stat, checkAccess_eq_ok_iff.mpr hdenied] at h
    simp only [bind, Except.bind] at h
    split at h
    next file hfile => exact ⟨file, hfile, (Option.some_inj.mp h).symm⟩
    next =>
      split at h
      · rw [← Option.some_inj.mp h] at hdir
        exact absurd hdir (by simp)
      · cases h

/-- What is read of a path is what its file holds. -/
theorem file?_of_read {path : Path} {bytes : ByteArray} (h : memory.read path = .ok bytes) :
    ∃ file, memory.file? path = some file ∧ file.content = bytes := by
  rw [read] at h
  cases haccess : memory.checkAccess path with
  | error failure => rw [haccess] at h; cases h
  | ok _ =>
    rw [haccess] at h
    cases hfile : memory.file? path with
    | none => simp only [bind, Except.bind, hfile] at h; cases h
    | some file =>
      simp only [bind, Except.bind, hfile] at h
      cases h
      exact ⟨file, rfl, rfl⟩

theorem file?_congr {p q : Path} (h : p.components = q.components) :
    memory.file? p = memory.file? q := by
  simp only [file?, same, h]

/-- What is known of a path depends on its components, except for the wording of a failure. -/
theorem toOption_stat_congr {p q : Path} (h : p.components = q.components) :
    (memory.stat p).toOption = (memory.stat q).toOption := by
  have hunder : ∀ path : Path, path.isUnder p = path.isUnder q := by
    intro path
    simp only [isUnder, under?, h]
  by_cases hdenied : memory.Denies p.components
  · rw [stat, stat, checkAccess_eq_error hdenied, checkAccess_eq_error (h ▸ hdenied)]
    rfl
  · rw [stat, stat, checkAccess_eq_ok_iff.mpr hdenied,
      checkAccess_eq_ok_iff.mpr (h ▸ hdenied), file?_congr h]
    simp only [bind, Except.bind, hunder]
    split
    · rfl
    · split <;> rfl

end MemoryTree

end SourceRetrieval
