/-
File trees in memory.

* `MemoryTree.add`, `touch`, `remove` and `deny` change a tree;
* `MemoryTree.tree` is the file tree that a search sees.

Design notes: a tree holds files alone, and a directory is where some file lies
below.  Files are kept in the order of their paths, which the type of a tree says
of them.  A clock counts the changes and gives each its time, so no file has a
time that is still to come.
-/
import SourceRetrieval.FileTree.Basic
import SourceRetrieval.Path.Order

namespace SourceRetrieval

/-- A file in memory. -/
structure MemoryFile where
  path : Path
  content : ByteArray
  modified : Nat
  deriving Inhabited

/-- One file comes before another. -/
def MemoryFile.Precedes (a b : MemoryFile) : Prop := a.path.compare b.path = .lt

/-- The time of the `n`-th change, in seconds. -/
def MemoryTree.timeOf (n : Nat) : Nat := 1700000000 + n

/-- Files in memory. -/
structure MemoryTree where
  files : List MemoryFile := []
  /-- Paths at and below which nothing may be done. -/
  denied : List Path := []
  /-- The number of changes so far. -/
  clock : Nat := 0
  /-- The files stand in the order of their paths, each once. -/
  ordered : files.Pairwise MemoryFile.Precedes := by exact .nil
  /-- No file has a time that is still to come. -/
  timely : ∀ file ∈ files, file.modified ≤ MemoryTree.timeOf clock := by nofun

namespace MemoryTree

instance : Inhabited MemoryTree := ⟨{}⟩

/-- Put a file in its place among the files; the content and the time of a file at the
same path are replaced. -/
def place (file : MemoryFile) : List MemoryFile → List MemoryFile
  | [] => [file]
  | other :: rest =>
    match file.path.compare other.path with
    | .lt => file :: other :: rest
    -- Two spellings of one path are one file, under the spelling that came first.
    | .eq => { file with path := other.path } :: rest
    | .gt => other :: place file rest

/-- What is among the files afterwards is the new file, perhaps under the path of an old
one, or an old file. -/
theorem mem_place {file other : MemoryFile} {files : List MemoryFile}
    (h : other ∈ place file files) :
    (other = { file with path := other.path }
      ∧ (other.path = file.path ∨ ∃ old ∈ files, old.path = other.path)) ∨ other ∈ files := by
  induction files with
  | nil =>
    rw [place, List.mem_singleton] at h
    subst h
    exact .inl ⟨rfl, .inl rfl⟩
  | cons first rest ih =>
    rw [place] at h
    split at h
    · rcases List.mem_cons.mp h with rfl | h
      · exact .inl ⟨rfl, .inl rfl⟩
      · exact .inr h
    · rcases List.mem_cons.mp h with rfl | h
      · exact .inl ⟨rfl, .inr ⟨first, List.mem_cons_self, rfl⟩⟩
      · exact .inr (List.mem_cons_of_mem _ h)
    · rcases List.mem_cons.mp h with rfl | h
      · exact .inr List.mem_cons_self
      · rcases ih h with ⟨hfile, hpath | ⟨old, hold, hpath⟩⟩ | hrest
        · exact .inl ⟨hfile, .inl hpath⟩
        · exact .inl ⟨hfile, .inr ⟨old, List.mem_cons_of_mem _ hold, hpath⟩⟩
        · exact .inr (List.mem_cons_of_mem _ hrest)

/-- Files in order stay so. -/
theorem ordered_place {files : List MemoryFile} (file : MemoryFile)
    (h : files.Pairwise MemoryFile.Precedes) : (place file files).Pairwise MemoryFile.Precedes := by
  induction files with
  | nil => exact List.pairwise_singleton _ _
  | cons first rest ih =>
    obtain ⟨hfirst, hrest⟩ := List.pairwise_cons.mp h
    rw [place]
    split
    next hlt =>
      refine List.pairwise_cons.mpr ⟨fun other hother => ?_, h⟩
      rcases List.mem_cons.mp hother with rfl | hother
      · exact hlt
      · exact Std.TransCmp.lt_trans hlt (hfirst other hother)
    next => exact List.pairwise_cons.mpr ⟨hfirst, hrest⟩
    next hgt =>
      refine List.pairwise_cons.mpr ⟨fun other hother => ?_, ih hrest⟩
      rcases mem_place hother with ⟨-, hpath | ⟨old, hold, hpath⟩⟩ | hother
      · rw [MemoryFile.Precedes, hpath]
        exact Std.OrientedCmp.lt_of_gt hgt
      · rw [MemoryFile.Precedes, ← hpath]
        exact hfirst old hold
      · exact hfirst other hother

theorem timeOf_le_succ (n : Nat) : timeOf n ≤ timeOf (n + 1) := Nat.le_succ _

/-- Create a file or overwrite it. -/
def add (tree : MemoryTree) (path : Path) (content : ByteArray) : MemoryTree :=
  let clock := tree.clock + 1
  { tree with
    files := place ⟨path, content, timeOf clock⟩ tree.files
    clock := clock
    ordered := ordered_place _ tree.ordered
    timely := by
      intro file hfile
      rcases mem_place hfile with ⟨hnew, -⟩ | hold
      · exact Nat.le_of_eq (congrArg MemoryFile.modified hnew)
      · exact Nat.le_trans (tree.timely file hold) (timeOf_le_succ _) }

/-- The file at a path. -/
def file? (tree : MemoryTree) (path : Path) : Option MemoryFile :=
  tree.files.find? (·.path.same path)

/-- Give a file a new time; whether there is such a file. -/
def touch (tree : MemoryTree) (path : Path) : MemoryTree × Bool :=
  let clock := tree.clock + 1
  let touched := fun (file : MemoryFile) =>
    if file.path.same path then { file with modified := timeOf clock } else file
  have path_touched : ∀ file, (touched file).path = file.path := by
    intro file
    simp only [touched]
    split <;> rfl
  ({ tree with
      files := tree.files.map touched
      clock := clock
      ordered := by
        refine List.pairwise_map.mpr (tree.ordered.imp fun h => ?_)
        rw [MemoryFile.Precedes, path_touched, path_touched]
        exact h
      timely := by
        intro file hfile
        obtain ⟨old, hold, rfl⟩ := List.mem_map.mp hfile
        simp only [touched]
        split
        · exact Nat.le_refl _
        · exact Nat.le_trans (tree.timely old hold) (timeOf_le_succ _) },
    (tree.file? path).isSome)

/-- Remove a file; whether there was such a file. -/
def remove (tree : MemoryTree) (path : Path) : MemoryTree × Bool :=
  ({ tree with
      files := tree.files.filter fun file => !file.path.same path
      ordered := tree.ordered.filter _
      timely := fun file hfile => tree.timely file (List.mem_filter.mp hfile).1 },
    (tree.file? path).isSome)

/-- Let everything at and below a path be refused. -/
def deny (tree : MemoryTree) (path : Path) : MemoryTree :=
  { tree with denied := tree.denied ++ [path] }

/-- The failure of a path that leads nowhere. -/
def missing (path : Path) : AccessFailure :=
  ⟨.notFound, "no such file or directory: " ++ path.text⟩

/-- Refuse a denied path. -/
def checkAccess (tree : MemoryTree) (path : Path) : Except AccessFailure Unit :=
  if tree.denied.any path.isUnder then
    .error ⟨.permissionDenied, "permission denied: " ++ path.text⟩
  else .ok ()

/-- What a file holds. -/
def read (tree : MemoryTree) (path : Path) : Except AccessFailure ByteArray := do
  tree.checkAccess path
  match tree.file? path with
  | some file => return file.content
  | none => .error (missing path)

/-- What kind of thing a path is.  A directory has the time of the newest file below it. -/
def stat (tree : MemoryTree) (path : Path) : Except AccessFailure FileStat := do
  tree.checkAccess path
  match tree.file? path with
  | some file => return ⟨file.content.size, file.modified, false⟩
  | none =>
    let below := tree.files.filter fun file => file.path.isUnder path
    match (below.map (·.modified)).max? with
    | some newest => return ⟨0, newest, true⟩
    | none => .error (missing path)

/-- The entry of a directory through which a file below it is reached. -/
def entryToward? (directory : Path) (file : MemoryFile) : Option DirEntry :=
  match Path.under? directory file.path with
  | some (first :: rest) => some ⟨directory.join first.text, !rest.isEmpty, false⟩
  | _ => none

/-- Of neighbouring entries of one path make one, a directory if one of them is. -/
def mergeEntries (entries : List DirEntry) : List DirEntry :=
  entries.foldr step []
where
  /-- Put an entry in front of others. -/
  step (entry : DirEntry) (others : List DirEntry) : List DirEntry :=
    match others with
    | next :: rest =>
      if entry.path.same next.path then { entry with isDir := entry.isDir || next.isDir } :: rest
      else entry :: others
    | [] => [entry]

/-- What a directory lists, by path. -/
def list (tree : MemoryTree) (path : Path) : Except AccessFailure (List DirEntry) := do
  tree.checkAccess path
  match mergeEntries (tree.files.filterMap (entryToward? path)) with
  | [] =>
    if (tree.file? path).isSome then .error ⟨.other, "not a directory: " ++ path.text⟩
    else .error (missing path)
  | entries => return entries

/-- The file tree that a search sees. -/
def tree (memory : MemoryTree) : FileTree :=
  { read := memory.read
    stat := memory.stat
    list := memory.list
    directoryBound := memory.files.foldr (fun file sum => file.path.components.length + sum) 1 }

end MemoryTree

end SourceRetrieval
