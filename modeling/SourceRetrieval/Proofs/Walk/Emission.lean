/-
What a walk of a tree in memory yields.

* `Walker.emit` says by recursion over directories what a walk from a directory
  yields: the files of the directory first, then what its subdirectories yield;
* `walkFrom_eq` — working off a stack of directories yields what they emit, one
  after the other;
* `walk_eq_emit` — a walk yields what its root emits.

Design notes: the recursion ends because the subdirectories of a directory weigh
less than it, and for the same reason the fuel of a walk is enough.
-/
import SourceRetrieval.Proofs.FileTree.Weight
import SourceRetrieval.Walk

namespace SourceRetrieval.Walker

open MemoryTree

variable {walker : Walker} {memory : MemoryTree}

/-! ### The entries of a directory -/

/-- The files among the entries of a directory that are not ignored, by path. -/
def keptFiles (chain : IgnoreChain) (entries : List DirEntry) : List DirEntry :=
  (sortEntries entries).filter fun entry =>
    !entry.isDir && !chain.isIgnored entry.path entry.isDir

/-- The directories among the entries of a directory that are entered, by path: not those
ignored, behind a link or excluded. -/
def keptDirectories (walker : Walker) (chain : IgnoreChain) (entries : List DirEntry) :
    List DirEntry :=
  (sortEntries entries).filter fun entry =>
    entry.isDir && !chain.isIgnored entry.path entry.isDir && !entry.isSymlink
      && !walker.excludes.isMatch (walker.root.relativeTo entry.path)

theorem mem_sortEntries {entries : List DirEntry} {entry : DirEntry} :
    entry ∈ sortEntries entries ↔ entry ∈ entries := (List.mergeSort_perm _ _).mem_iff

/-- What a tree in memory lists is sorted already. -/
theorem sortEntries_eq {directory : Path} {entries : List DirEntry}
    (h : memory.list directory = .ok entries) : sortEntries entries = entries := by
  refine List.mergeSort_of_pairwise ((pairwise_list h).imp fun hlt => ?_)
  rw [DirEntry.Precedes] at hlt
  rw [hlt]
  rfl

theorem mem_keptFiles {chain : IgnoreChain} {entries : List DirEntry} {entry : DirEntry} :
    entry ∈ keptFiles chain entries ↔ entry ∈ entries ∧ entry.isDir = false
      ∧ chain.isIgnored entry.path false = false := by
  rw [keptFiles, List.mem_filter, mem_sortEntries]
  cases entry.isDir <;> simp

theorem mem_keptDirectories {chain : IgnoreChain} {entries : List DirEntry} {entry : DirEntry} :
    entry ∈ walker.keptDirectories chain entries ↔ entry ∈ entries ∧ entry.isDir = true
      ∧ chain.isIgnored entry.path true = false ∧ entry.isSymlink = false
      ∧ walker.excludes.isMatch (walker.root.relativeTo entry.path) = false := by
  rw [keptDirectories, List.mem_filter, mem_sortEntries]
  cases entry.isDir <;> simp [and_assoc]

/-- The directories entered from a directory together weigh less than it. -/
theorem sum_weight_keptDirectories_lt {directory : Path} {entries : List DirEntry}
    (h : memory.list directory = .ok entries) (chain : IgnoreChain) :
    ((walker.keptDirectories chain entries).map (memory.weight ·.path)).sum
      < memory.weight directory := by
  refine sum_weight_lt ?_ (fun entry hentry => ?_) fun entry hentry => ?_
  · rw [keptDirectories, sortEntries_eq h]
    exact (pairwise_list h).filter _
  · exact exists_leadsTo h (mem_keptDirectories.mp hentry).1
  · exact (mem_keptDirectories.mp hentry).2.1

/-! ### Emission -/

/-- What a walk from a directory yields, given the rules of the ignore files above it. -/
def emit (walker : Walker) (memory : MemoryTree) (directory : Path) (above : IgnoreChain) :
    List Candidate :=
  match _hlist : memory.list directory with
  | .error _ => []
  | .ok entries =>
    let chain := walker.enter memory.tree directory above
    (keptFiles chain entries).filterMap (fun entry => walker.filter? memory.tree entry.path)
      ++ (walker.keptDirectories chain entries).attach.flatMap fun ⟨entry, _⟩ =>
        emit walker memory entry.path chain
termination_by memory.weight directory
-- An entry that is entered is a directory of its own, which weighs less.
decreasing_by
  rename_i hentry
  obtain ⟨hentry, hdir, -⟩ := mem_keptDirectories.mp hentry
  obtain ⟨c, hleads⟩ := exists_leadsTo _hlist hentry
  exact weight_lt hleads hdir

theorem emit_of_error {directory : Path} {above : IgnoreChain} {failure : AccessFailure}
    (h : memory.list directory = .error failure) : walker.emit memory directory above = [] := by
  rw [emit]
  split
  · rfl
  · simp_all

theorem emit_of_ok {directory : Path} {entries : List DirEntry}
    (h : memory.list directory = .ok entries) (above : IgnoreChain) :
    walker.emit memory directory above =
      (keptFiles (walker.enter memory.tree directory above) entries).filterMap
          (fun entry => walker.filter? memory.tree entry.path)
        ++ (walker.keptDirectories (walker.enter memory.tree directory above) entries).flatMap
          fun entry => walker.emit memory entry.path (walker.enter memory.tree directory above) := by
  rw [emit]
  split
  next failure herror =>
    rw [h] at herror
    cases herror
  next entries' hok =>
    obtain rfl : entries = entries' := Except.ok.inj (h.symm.trans hok)
    simp only [List.flatMap_subtype, List.unattach_attach]

/-! ### Working off a stack -/

theorem expand_of_error {directory : Path} {above : IgnoreChain} {failure : AccessFailure}
    (h : memory.list directory = .error failure) :
    walker.expand memory.tree directory above = ([], []) := by
  rw [expand, show memory.tree.list directory = .error failure from h]

theorem expand_of_ok {directory : Path} {entries : List DirEntry}
    (h : memory.list directory = .ok entries) (above : IgnoreChain) :
    walker.expand memory.tree directory above =
      ((keptFiles (walker.enter memory.tree directory above) entries).map (·.path),
        (walker.keptDirectories (walker.enter memory.tree directory above) entries).map
          fun entry => (entry.path, walker.enter memory.tree directory above)) := by
  rw [expand, show memory.tree.list directory = .ok entries from h]
  rw [Prod.mk.injEq]
  simp only [List.filter_filter, keptFiles, keptDirectories]
  -- The conditions are the same, in another order.
  refine ⟨trivial, congrArg _ (List.filter_congr fun entry _ => ?_)⟩
  cases entry.isDir <;> cases entry.isSymlink <;> simp [Bool.and_comm]

/-- The weight of a stack of directories. -/
def stackWeight (memory : MemoryTree) (stack : List Pending) : Nat :=
  (stack.map fun pending => memory.weight pending.1).sum

theorem stackWeight_cons (pending : Pending) (stack : List Pending) :
    stackWeight memory (pending :: stack) = memory.weight pending.1 + stackWeight memory stack := by
  rw [stackWeight, List.map_cons, List.sum_cons]
  rfl

theorem stackWeight_append (stack stack' : List Pending) :
    stackWeight memory (stack ++ stack') = stackWeight memory stack + stackWeight memory stack' := by
  rw [stackWeight, List.map_append, List.sum_append]
  rfl

/-- What a directory has still to be entered for weighs less than it. -/
theorem stackWeight_expand_lt (walker : Walker) (memory : MemoryTree) (directory : Path)
    (above : IgnoreChain) :
    stackWeight memory (walker.expand memory.tree directory above).2 < memory.weight directory := by
  cases h : memory.list directory with
  | error failure =>
    rw [expand_of_error h]
    exact Nat.succ_pos _
  | ok entries =>
    rw [expand_of_ok h, stackWeight, List.map_map]
    exact sum_weight_keptDirectories_lt h _

/-- A directory emits its files and what its subdirectories emit. -/
theorem emit_eq_expand (walker : Walker) (memory : MemoryTree) (directory : Path)
    (above : IgnoreChain) :
    walker.emit memory directory above =
      (walker.expand memory.tree directory above).1.filterMap (walker.filter? memory.tree)
        ++ (walker.expand memory.tree directory above).2.flatMap
          fun pending => walker.emit memory pending.1 pending.2 := by
  cases h : memory.list directory with
  | error failure =>
    rw [emit_of_error h, expand_of_error h]
    rfl
  | ok entries =>
    rw [emit_of_ok h, expand_of_ok h, List.filterMap_map, List.flatMap_map]
    rfl

theorem walkFrom_succ_cons (walker : Walker) (tree : FileTree) (fuel : Nat) (pending : Pending)
    (rest : List Pending) :
    walker.walkFrom tree (fuel + 1) (pending :: rest) =
      (walker.expand tree pending.1 pending.2).1.filterMap (walker.filter? tree)
        ++ walker.walkFrom tree fuel ((walker.expand tree pending.1 pending.2).2 ++ rest) := rfl

/-- Working off a stack of directories yields what they emit, one after the other. -/
theorem walkFrom_eq {fuel : Nat} {stack : List Pending} (h : stackWeight memory stack ≤ fuel) :
    walker.walkFrom memory.tree fuel stack
      = stack.flatMap fun pending => walker.emit memory pending.1 pending.2 := by
  induction fuel generalizing stack with
  | zero =>
    cases stack with
    | nil => rfl
    | cons pending rest =>
      -- Every directory weighs something, so without fuel there is none on the stack.
      rw [stackWeight_cons, MemoryTree.weight] at h
      omega
  | succ fuel ih =>
    cases stack with
    | nil => rfl
    | cons pending rest =>
      have hlt := stackWeight_expand_lt walker memory pending.1 pending.2
      have hrest : stackWeight memory
          ((walker.expand memory.tree pending.1 pending.2).2 ++ rest) ≤ fuel := by
        rw [stackWeight_cons] at h
        rw [stackWeight_append]
        omega
      rw [walkFrom_succ_cons, List.flatMap_cons, emit_eq_expand, ih hrest, List.flatMap_append,
        List.append_assoc]

/-- A walk yields what its root emits. -/
theorem walk_eq_emit (walker : Walker) (memory : MemoryTree) :
    walker.walk memory.tree = walker.emit memory walker.root [] := by
  have hfuel : stackWeight memory [(walker.root, [])] ≤ memory.tree.directoryBound := by
    rw [stackWeight_cons]
    exact memory.weight_le_directoryBound walker.root
  rw [walk, walkFrom_eq hfuel, List.flatMap_singleton]

end SourceRetrieval.Walker
