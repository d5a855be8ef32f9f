/-
Walking a tree with one file taken away.

* `mem_ignoreFiles_ne` — the rules of a walk are read from ignore files alone, so the
  rules in force are the same (`enter_remove`, `isClear_remove_iff`);
* `mem_walk_remove_iff`, `walk_remove_perm` — without a file that is no ignore file and
  lies below no other, a walk yields what it did, apart from that file.

Design notes: all that a walk asks of a tree besides its files are the rules in
force, so two trees with the same rules have the same clear steps.
-/
import SourceRetrieval.Proofs.FileTree.Removal
import SourceRetrieval.Proofs.Walk.Coverage

namespace SourceRetrieval.Walker

open MemoryTree SourceRetrieval.Path

/-- A path that a walk from a root may read rules from. -/
def IsIgnoreFile (root path : Path) : Prop :=
  path.fileName? = some ".gitignore" ∨ path.fileName? = some ".ignore"
    ∨ path.components = root.components ++ [.normal ".git", .normal "info", .normal "exclude"]

variable {walker : Walker} {memory : MemoryTree} {gone : Path}

/-! ### The rules in force -/

theorem fileName?_of_components {path : Path} {cs : List Component} {name : String}
    (h : path.components = cs ++ [.normal name]) : path.fileName? = some name := by
  rw [fileName?, h, List.getLast?_append, List.getLast?_singleton]
  rfl

theorem components_join_name (directory : Path) {name : String}
    (hname : (Component.normal name).IsStep) :
    (directory.join name).components = directory.components ++ [.normal name] :=
  @components_join directory (.normal name) ((wellFormed_components directory).concat hname)

theorem isIgnoreFile_of_mem_ignoreFiles {directory file : Path}
    (h : file ∈ walker.ignoreFiles directory) : IsIgnoreFile walker.root file := by
  rw [ignoreFiles, List.mem_append] at h
  rcases h with h | h
  · -- The rules of the repository stand in the root alone.
    split at h
    next hroot =>
      rw [List.mem_singleton.mp h]
      refine .inr (.inr ?_)
      change (((directory.join ".git").join "info").join "exclude").components = _
      rw [components_join_name _ (by decide), components_join_name _ (by decide),
        components_join_name _ (by decide), same_iff.mp hroot, List.append_assoc,
        List.append_assoc]
      rfl
    next => exact absurd h List.not_mem_nil
  · rcases List.mem_cons.mp h with rfl | h
    · exact .inl (fileName?_of_components (components_join_name _ (by decide)))
    · rw [List.mem_singleton.mp h]
      exact .inr (.inl (fileName?_of_components (components_join_name _ (by decide))))

theorem IsIgnoreFile.congr {root path path' : Path} (h : IsIgnoreFile root path)
    (hsame : path'.components = path.components) : IsIgnoreFile root path' := by
  simpa only [IsIgnoreFile, fileName?, hsame] using h

/-- Without a file that is no ignore file the rules of every directory are the same. -/
theorem enter_remove (hrules : ¬IsIgnoreFile walker.root gone) (directory : Path)
    (above : IgnoreChain) :
    walker.enter (memory.remove gone).1.tree directory above
      = walker.enter memory.tree directory above := by
  have hread : ∀ file ∈ walker.ignoreFiles directory,
      (memory.remove gone).1.tree.read file = memory.tree.read file := by
    intro file hfile
    refine read_remove_of_ne fun hsame => hrules ?_
    exact (isIgnoreFile_of_mem_ignoreFiles hfile).congr hsame.symm
  rw [enter, enter, List.filterMap_congr fun file hfile => by rw [hread file hfile]]

theorem rulesAt_congr {tree tree' : FileTree}
    (henter : ∀ directory above, walker.enter tree' directory above
      = walker.enter tree directory above) (here : Path) (above : IgnoreChain)
    (steps : List Component) :
    walker.rulesAt tree' here above steps = walker.rulesAt tree here above steps := by
  induction steps generalizing here above with
  | nil => exact henter here above
  | cons c steps ih => rw [rulesAt, rulesAt, henter, ih]

theorem isClear_remove_iff (hrules : ¬IsIgnoreFile walker.root gone) {steps : List Component} :
    walker.IsClear (memory.remove gone).1.tree steps ↔ walker.IsClear memory.tree steps := by
  have hsame : ∀ front, walker.rulesAt (memory.remove gone).1.tree walker.root [] front
      = walker.rulesAt memory.tree walker.root [] front :=
    rulesAt_congr (enter_remove hrules) walker.root []
  constructor
  · intro h
    refine ⟨fun front c rest hsteps => ?_, h.not_excluded⟩
    rw [← hsame]
    exact h.not_ignored front c rest hsteps
  · intro h
    refine ⟨fun front c rest hsteps => ?_, h.not_excluded⟩
    rw [hsame]
    exact h.not_ignored front c rest hsteps

/-! ### What is yielded -/

/-- Another file is a candidate just as it was. -/
theorem filter?_remove_of_ne {path : Path} (h : path.components ≠ gone.components)
    {candidate : Candidate} :
    walker.filter? (memory.remove gone).1.tree path = some candidate
      ↔ walker.filter? memory.tree path = some candidate := by
  simp only [filter?_eq_some_iff, ← and_assoc, known_remove_of_ne h]

/-- Without a file that is no ignore file and lies below no other, a walk yields what it did,
apart from that file. -/
theorem mem_walk_remove_iff (hrules : ¬IsIgnoreFile walker.root gone)
    (hlone : ∀ cs next rest, memory.Holds cs → gone.components ≠ cs ++ next :: rest)
    {candidate : Candidate} :
    candidate ∈ walker.walk (memory.remove gone).1.tree
      ↔ candidate ∈ walker.walk memory.tree ∧ candidate.path.components ≠ gone.components := by
  have hsteps : ∀ {steps : List Component}, memory.IsLeaf (walker.root.components ++ steps) →
      (walker.root.descend steps).components = walker.root.components ++ steps :=
    fun hleaf => components_descend (wellFormed_of_holds hleaf.1)
  rw [mem_walk_iff, mem_walk_iff]
  constructor
  · rintro ⟨steps, hne, hclear, hleaf, hfilter⟩
    obtain ⟨hleaf, hother⟩ := (isLeaf_remove_iff hlone).mp hleaf
    rw [← hsteps hleaf] at hother
    have hfilter := (filter?_remove_of_ne hother).mp hfilter
    refine ⟨⟨steps, hne, (isClear_remove_iff hrules).mp hclear, hleaf, hfilter⟩, ?_⟩
    rw [(holds_of_filter? hfilter).1]
    exact hother
  · rintro ⟨⟨steps, hne, hclear, hleaf, hfilter⟩, hother⟩
    rw [(holds_of_filter? hfilter).1] at hother
    refine ⟨steps, hne, (isClear_remove_iff hrules).mpr hclear, ?_,
      (filter?_remove_of_ne hother).mpr hfilter⟩
    rw [hsteps hleaf] at hother
    exact (isLeaf_remove_iff hlone).mpr ⟨hleaf, hother⟩

/-- Without a file that is no ignore file and lies below no other, a walk yields the same
candidates, apart from that file, if perhaps in another order. -/
theorem walk_remove_perm (hrules : ¬IsIgnoreFile walker.root gone)
    (hlone : ∀ cs next rest, memory.Holds cs → gone.components ≠ cs ++ next :: rest) :
    (walker.walk (memory.remove gone).1.tree).Perm
      ((walker.walk memory.tree).filter fun c => c.path.components ≠ gone.components) := by
  refine (List.perm_ext_iff_of_nodup (nodup_walk _ _) ((nodup_walk _ _).filter _)).mpr fun c => ?_
  rw [List.mem_filter, mem_walk_remove_iff hrules hlone, decide_eq_true_eq]

end SourceRetrieval.Walker
