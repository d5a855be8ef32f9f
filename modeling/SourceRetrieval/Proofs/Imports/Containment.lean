/-
Imports stay inside the workspace.

* `isInside_of_file?` and `isInside_of_mem_packageFiles` — whichever check a path
  has passed, it is a normal path at or under the root at which there is a file;
* `resolve_contained` — so an import names, whatever its text, at most twenty files
  of the workspace, each once and none of them the importer.

Design notes: nothing is asked of the root, of the importer or of the text of an
import.  A path that has been put together is brought into its normal form before
it is compared with the root, and so is a directory before it is listed; a file
listed in it has a name that does not lead out again.
-/
import SourceRetrieval.Proofs.FileTree.Listing
import SourceRetrieval.Proofs.Imports.Provenance
import SourceRetrieval.Proofs.Path.Normal

namespace SourceRetrieval

open SourceRetrieval.Path

/-- A normal path at or under a root, and a file of the tree. -/
structure MemoryTree.IsInside (memory : MemoryTree) (root path : Path) : Prop where
  normal : path.normalize = path
  under : root.components <+: path.components
  stored : memory.Holds path.components

namespace Resolver

open MemoryTree

variable {memory : MemoryTree} {root : Path}

/-! ### A file that is looked for -/

theorem holds_of_isFile {path : Path} (h : memory.tree.isFile path = true) :
    memory.Holds path.components := by
  rw [FileTree.isFile, Option.any_eq_true] at h
  obtain ⟨known, hknown, hdir⟩ := h
  obtain ⟨-, file, hfile, -⟩ := file?_of_stat hknown (by simpa using hdir)
  rw [← isSome_file?_iff, hfile]
  rfl

theorem isInside_of_file? {proposed path : Path}
    (h : (Resolver.mk memory.tree root).file? proposed = some path) :
    memory.IsInside root path := by
  rw [file?] at h
  simp only [Bool.and_eq_true, Option.ite_none_right_eq_some, Option.some_inj] at h
  obtain ⟨⟨hunder, hfile⟩, rfl⟩ := h
  obtain ⟨rest, hrest⟩ := isUnder_iff.mp hunder
  exact ⟨normalize_normalize proposed, ⟨rest, hrest.symm⟩, holds_of_isFile hfile⟩

/-! ### The files of a package -/

/-- The files of a package are entries of its directory, in the order of their paths. -/
theorem packageFiles_eq (extension : String) (testEnd : Option String) (directory : Path) :
    (Resolver.mk memory.tree root).packageFiles extension testEnd directory = [] ∨
      ∃ entries, memory.list directory.normalize = .ok entries
        ∧ directory.normalize.isUnder root = true
        ∧ ∃ belongs : DirEntry → Bool,
          (∀ entry, belongs entry = true →
            entry.isDir = false ∧ ("." ++ extension).toList <:+ entry.name.toList)
          ∧ (Resolver.mk memory.tree root).packageFiles extension testEnd directory
            = (((entries.filter belongs).map (·.path)).mergeSort
                fun a b => a.compare b != .gt).take maxPackageFiles := by
  rw [packageFiles]
  simp only []
  split
  · exact .inl rfl
  next hunder =>
    split
    next => exact .inl rfl
    next entries hlist =>
      refine .inr ⟨entries, hlist, by simpa using hunder, _, fun entry hbelongs => ?_, rfl⟩
      simp only [Bool.and_eq_true, Bool.not_eq_true', List.isSuffixOf_iff_suffix] at hbelongs
      exact hbelongs.1

/-- The last step to a file that has a name with an end is a name. -/
theorem exists_normal_of_leadsTo {directory : Path} {entry : DirEntry} {c : Component}
    (hleads : memory.LeadsTo directory c entry) {tail : List Char} (htail : tail ≠ [])
    (hname : tail <:+ entry.name.toList) : ∃ name, c = .normal name := by
  rw [DirEntry.name, fileName?, hleads.components, List.getLast?_concat] at hname
  cases c with
  | normal name => exact ⟨name, rfl⟩
  -- No other component has a name, and nothing is the end of an empty one.
  | root | current | parent => exact absurd (List.suffix_nil.mp hname) htail

theorem isInside_of_mem_packageFiles {extension : String} {testEnd : Option String}
    {directory path : Path}
    (h : path ∈ (Resolver.mk memory.tree root).packageFiles extension testEnd directory) :
    memory.IsInside root path := by
  obtain hnone | ⟨entries, hlist, hunder, belongs, hbelongs, heq⟩ :=
    @packageFiles_eq memory root extension testEnd directory
  · rw [hnone] at h
    exact absurd h List.not_mem_nil
  · rw [heq] at h
    have hsorted := (List.mergeSort_perm _ _).mem_iff.mp (List.mem_of_mem_take h)
    obtain ⟨entry, hentry, rfl⟩ := List.mem_map.mp hsorted
    obtain ⟨hentry, hkept⟩ := List.mem_filter.mp hentry
    obtain ⟨hfile, hname⟩ := hbelongs entry hkept
    obtain ⟨c, hleads⟩ := exists_leadsTo hlist hentry
    obtain ⟨name, rfl⟩ := exists_normal_of_leadsTo hleads (by simp) hname
    have hholds : memory.Holds entry.path.components := by
      -- No file lies further down, so the one that the entry leads to lies at it.
      obtain ⟨rest, hrest⟩ := hleads.holds
      rw [hleads.components]
      cases rest with
      | nil => exact hrest
      | cons next rest =>
        rw [hleads.isDir_iff.mpr ⟨next, rest, hrest⟩] at hfile
        exact absurd hfile (by simp)
    obtain ⟨above, habove⟩ := isUnder_iff.mp hunder
    refine ⟨normalize_eq_self ?_ ?_, ?_, hholds⟩
    · rw [hleads.path]
      refine (isPlain_normalize directory).join ?_
      rw [← hleads.components]
      exact wellFormed_of_holds hholds
    · rw [hleads.components]
      exact (isSettled_components_normalize directory).concat name
    · rw [hleads.components, habove]
      exact ⟨above ++ [.normal name], by rw [List.append_assoc]⟩

theorem nodup_packageFiles (extension : String) (testEnd : Option String) (directory : Path) :
    (((Resolver.mk memory.tree root).packageFiles extension testEnd directory).map
      components).Nodup := by
  obtain hnone | ⟨entries, hlist, -, belongs, -, heq⟩ :=
    @packageFiles_eq memory root extension testEnd directory
  · rw [hnone]
    exact List.nodup_nil
  · -- A directory lists every path once, and sorting and cutting add none.
    have hentries : (((entries.filter belongs).map (·.path)).map components).Nodup := by
      rw [List.map_map]
      exact List.pairwise_map.mpr (((pairwise_list hlist).filter _).imp components_ne_of_lt)
    rw [heq]
    refine List.Nodup.sublist ((List.take_sublist _ _).map _) ?_
    exact (((List.mergeSort_perm _ _).map _).nodup_iff).mpr hentries

theorem length_packageFiles_le (resolver : Resolver) (extension : String)
    (testEnd : Option String) (directory : Path) :
    (resolver.packageFiles extension testEnd directory).length ≤ maxPackageFiles := by
  rw [packageFiles]
  simp only []
  split
  · exact Nat.zero_le _
  · split
    · exact Nat.zero_le _
    · exact List.length_take_le _ _

/-! ### What an import names -/

/-- At most twenty files of the workspace, each once. -/
structure IsContained (memory : MemoryTree) (root : Path) (found : List Path) : Prop where
  inside : ∀ path ∈ found, memory.IsInside root path
  nodup : (found.map components).Nodup
  length_le : found.length ≤ maxPackageFiles

theorem Names.isContained {found : List Path} (h : (Resolver.mk memory.tree root).Names found) :
    IsContained memory root found := by
  cases h with
  | nothing => exact ⟨by nofun, List.nodup_nil, Nat.zero_le _⟩
  | file hfile =>
    refine ⟨fun path hpath => ?_, List.nodup_singleton _, Nat.le_add_left 1 19⟩
    rw [List.mem_singleton.mp hpath]
    exact isInside_of_file? hfile
  | package extension testEnd directory =>
    exact ⟨fun path hpath => isInside_of_mem_packageFiles hpath, nodup_packageFiles _ _ _,
      length_packageFiles_le _ _ _ _⟩

theorem IsContained.sublist {found kept : List Path} (h : IsContained memory root found)
    (hkept : kept.Sublist found) : IsContained memory root kept :=
  ⟨fun path hpath => h.inside path (hkept.subset hpath), h.nodup.sublist (hkept.map _),
    Nat.le_trans hkept.length_le h.length_le⟩

theorem isContained_resolve (importer : Path) (specifier : String) (language : Option Language) :
    IsContained memory root
      ((Resolver.mk memory.tree root).resolve importer specifier language) := by
  obtain ⟨found, hnames, hkept⟩ :=
    @exists_names_resolve (Resolver.mk memory.tree root) importer specifier language
  exact hnames.isContained.sublist (hkept.trans List.filter_sublist)

/-- Every file that an import names has a plain path. -/
theorem isPlain_of_mem_resolve {importer : Path} {specifier : String}
    {language : Option Language} {path : Path}
    (h : path ∈ (Resolver.mk memory.tree root).resolve importer specifier language) :
    path.IsPlain := by
  rw [← ((isContained_resolve importer specifier language).inside path h).normal]
  exact isPlain_normalize path

/-- Every path that an import names is normal, lies at or under the root, is the path of a file
of the tree and is not the importer; no path is named twice, and no more than twenty are. -/
theorem resolve_contained (memory : MemoryTree) (root importer : Path) (specifier : String)
    (language : Option Language) :
    let found := (Resolver.mk memory.tree root).resolve importer specifier language
    (∀ path ∈ found, path.normalize = path ∧ root.components <+: path.components
        ∧ (∃ file ∈ memory.files, file.path.components = path.components)
        ∧ path.components ≠ importer.components)
      ∧ (found.map components).Nodup ∧ found.length ≤ 20 := by
  intro found
  have hcontained : IsContained memory root found :=
    isContained_resolve importer specifier language
  refine ⟨fun path hpath => ?_, hcontained.nodup, hcontained.length_le⟩
  obtain ⟨hnormal, hunder, hstored⟩ := hcontained.inside path hpath
  refine ⟨hnormal, hunder, hstored, fun hsame => ?_⟩
  obtain ⟨all, -, hkept⟩ :=
    @exists_names_resolve (Resolver.mk memory.tree root) importer specifier language
  have hother := (List.mem_filter.mp (hkept.subset hpath)).2
  rw [same_iff.mpr hsame] at hother
  exact absurd hother (by decide)

end Resolver

end SourceRetrieval
