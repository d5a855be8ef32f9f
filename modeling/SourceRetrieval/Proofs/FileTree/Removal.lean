/-
A file tree in memory with one file taken away.

* `holds_remove_iff` — the other files are still there;
* `file?_remove_of_ne`, `read_remove_of_ne` — and hold what they held;
* `known_remove_of_ne` — and what is known of them is the same;
* `isLeaf_remove_iff` — no file is a directory only because of the file taken away,
  if that lies below no other.

Design notes: a directory may get another time or cease to be, so what is known of
a path is the same for files alone.
-/
import SourceRetrieval.Proofs.FileTree.Listing

namespace SourceRetrieval.MemoryTree

open SourceRetrieval.Path

variable {memory : MemoryTree} {gone path : Path}

theorem mem_files_remove {file : MemoryFile} :
    file ∈ (memory.remove gone).1.files
      ↔ file ∈ memory.files ∧ file.path.components ≠ gone.components := by
  rw [remove, List.mem_filter, Bool.not_eq_true', ← Bool.not_eq_true, same_iff]

/-- The other files are still there. -/
theorem holds_remove_iff {cs : List Component} :
    (memory.remove gone).1.Holds cs ↔ memory.Holds cs ∧ cs ≠ gone.components := by
  constructor
  · rintro ⟨file, hfile, rfl⟩
    obtain ⟨hmem, hne⟩ := mem_files_remove.mp hfile
    exact ⟨⟨file, hmem, rfl⟩, hne⟩
  · rintro ⟨⟨file, hfile, rfl⟩, hne⟩
    exact ⟨file, mem_files_remove.mpr ⟨hfile, hne⟩, rfl⟩

/-- To take a file away lets nothing be denied and nothing be allowed. -/
theorem checkAccess_remove : (memory.remove gone).1.checkAccess path = memory.checkAccess path := rfl

theorem file?_remove_of_ne (h : path.components ≠ gone.components) :
    (memory.remove gone).1.file? path = memory.file? path := by
  refine Option.ext fun file => ?_
  rw [file?_eq_some_iff, file?_eq_some_iff, mem_files_remove, and_assoc]
  refine and_congr_right fun _ => and_iff_right_of_imp fun hsame => ?_
  rwa [hsame]

theorem read_remove_of_ne (h : path.components ≠ gone.components) :
    (memory.remove gone).1.tree.read path = memory.tree.read path := by
  change (memory.remove gone).1.read path = memory.read path
  rw [read, read, checkAccess_remove, file?_remove_of_ne h]

/-- What is known to be a file is one that may be looked at, and the other way round. -/
theorem known_file_iff {known : FileStat} :
    (memory.tree.stat path).toOption = some known ∧ known.isDir = false ↔
      ¬memory.Denies path.components ∧ ∃ file, memory.file? path = some file
        ∧ known = ⟨file.content.size, file.modified, false⟩ := by
  refine ⟨fun ⟨hknown, hdir⟩ => file?_of_stat hknown hdir, ?_⟩
  rintro ⟨hallowed, file, hfile, rfl⟩
  refine ⟨?_, rfl⟩
  change (memory.stat path).toOption = _
  rw [stat, checkAccess_eq_ok_iff.mpr hallowed]
  simp only [bind, Except.bind, hfile]
  rfl

/-- What is known of another file is the same. -/
theorem known_remove_of_ne (h : path.components ≠ gone.components) {known : FileStat} :
    ((memory.remove gone).1.tree.stat path).toOption = some known ∧ known.isDir = false ↔
      (memory.tree.stat path).toOption = some known ∧ known.isDir = false := by
  rw [known_file_iff, known_file_iff, file?_remove_of_ne h]
  rfl

/-- If the file taken away lies below no other, just those files have nothing below them that
had nothing below them before. -/
theorem isLeaf_remove_iff (hlone : ∀ cs next rest, memory.Holds cs →
      gone.components ≠ cs ++ next :: rest) {cs : List Component} :
    (memory.remove gone).1.IsLeaf cs ↔ memory.IsLeaf cs ∧ cs ≠ gone.components := by
  simp only [IsLeaf, holds_remove_iff, not_and, not_not]
  constructor
  · rintro ⟨⟨hholds, hne⟩, hbelow⟩
    refine ⟨⟨hholds, fun next rest h => ?_⟩, hne⟩
    exact hlone cs next rest hholds (hbelow next rest h).symm
  · rintro ⟨⟨hholds, hbelow⟩, hne⟩
    exact ⟨⟨hholds, hne⟩, fun next rest h => absurd h (hbelow next rest)⟩

end SourceRetrieval.MemoryTree
