/-
Changing files in memory.

A tree is later than another one (`IsLater`) if what has an old time in it is an
old file.  Every change makes a tree later: `isLater_add`, `isLater_touch`,
`isLater_remove` and `isLater_deny`.

Design notes: a file that is written or touched gets the time of the change,
which no file has had before.
-/
import SourceRetrieval.FileTree.Memory

namespace SourceRetrieval.MemoryTree

/-- No time has been taken back, and every file with a time of `memory` is one of its files. -/
structure IsLater (memory later : MemoryTree) : Prop where
  clock_le : memory.clock ≤ later.clock
  mem_of_le : ∀ file ∈ later.files, file.modified ≤ timeOf memory.clock → file ∈ memory.files

variable {memory : MemoryTree}

theorem timeOf_le {n m : Nat} (h : n ≤ m) : timeOf n ≤ timeOf m := Nat.add_le_add_left h _

theorem not_timeOf_succ_le (n : Nat) : ¬timeOf (n + 1) ≤ timeOf n :=
  Nat.not_le.mpr (Nat.lt_succ_self _)

theorem isLater_add (memory : MemoryTree) (path : Path) (content : ByteArray) :
    memory.IsLater (memory.add path content) := by
  refine ⟨Nat.le_succ _, fun file hfile hold => ?_⟩
  rcases mem_place hfile with ⟨hnew, -⟩ | hmem
  · -- The file written has a time that was still to come.
    rw [hnew] at hold
    exact absurd hold (not_timeOf_succ_le _)
  · exact hmem

theorem isLater_touch (memory : MemoryTree) (path : Path) :
    memory.IsLater (memory.touch path).1 := by
  refine ⟨Nat.le_succ _, fun file hfile hold => ?_⟩
  obtain ⟨before, hbefore, rfl⟩ := List.mem_map.mp hfile
  split at hold
  · exact absurd hold (not_timeOf_succ_le _)
  next hother =>
    rw [if_neg hother]
    exact hbefore

theorem isLater_remove (memory : MemoryTree) (path : Path) :
    memory.IsLater (memory.remove path).1 :=
  ⟨Nat.le_refl _, fun _ hfile _ => (List.mem_filter.mp hfile).1⟩

theorem isLater_deny (memory : MemoryTree) (path : Path) : memory.IsLater (memory.deny path) :=
  ⟨Nat.le_refl _, fun _ hfile _ => hfile⟩

end SourceRetrieval.MemoryTree
