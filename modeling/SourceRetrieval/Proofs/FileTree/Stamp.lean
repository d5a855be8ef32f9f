/-
Changes that bring their own times.

`addAt` and `touchAt` give a file any time, while `add` and `touch` give it the
next time of the clock (`add_eq_addAt`, `touch_eq_touchAt`).

Design notes: a writer takes a time from the clock before it changes a file, and
another one may do so in between.  So where several write at once, the times of
the changes need not be in their order.
-/
import SourceRetrieval.FileTree.Memory

namespace SourceRetrieval.MemoryTree

/-- A clock that has reached a time. -/
def clockFor (memory : MemoryTree) (time : Nat) : Nat := max memory.clock (time - timeOf 0)

variable {memory : MemoryTree} {time : Nat}

theorem le_timeOf_clockFor (memory : MemoryTree) (time : Nat) :
    time ≤ timeOf (memory.clockFor time) := by
  have hmax : time - timeOf 0 ≤ memory.clockFor time := Nat.le_max_right _ _
  simp only [timeOf] at hmax ⊢
  omega

theorem timeOf_clock_le (memory : MemoryTree) (time : Nat) :
    timeOf memory.clock ≤ timeOf (memory.clockFor time) :=
  Nat.add_le_add_left (Nat.le_max_left _ _) _

theorem clockFor_timeOf_succ (memory : MemoryTree) :
    memory.clockFor (timeOf (memory.clock + 1)) = memory.clock + 1 := by
  simp only [clockFor, timeOf]
  omega

/-- Create a file or overwrite it at a time. -/
def addAt (memory : MemoryTree) (time : Nat) (path : Path) (content : ByteArray) : MemoryTree :=
  { memory with
    files := place ⟨path, content, time⟩ memory.files
    clock := memory.clockFor time
    ordered := ordered_place _ memory.ordered
    timely := by
      intro file hfile
      rcases mem_place hfile with ⟨hnew, -⟩ | hold
      · rw [hnew]
        exact le_timeOf_clockFor memory time
      · exact Nat.le_trans (memory.timely file hold) (timeOf_clock_le memory time) }

/-- Give the file at a path a time. -/
def touchAt (memory : MemoryTree) (time : Nat) (path : Path) : MemoryTree :=
  let touched := fun (file : MemoryFile) =>
    if file.path.same path then { file with modified := time } else file
  have path_touched : ∀ file, (touched file).path = file.path := by
    intro file
    simp only [touched]
    split <;> rfl
  { memory with
    files := memory.files.map touched
    clock := memory.clockFor time
    ordered := by
      refine List.pairwise_map.mpr (memory.ordered.imp fun h => ?_)
      rw [MemoryFile.Precedes, path_touched, path_touched]
      exact h
    timely := by
      intro file hfile
      obtain ⟨old, hold, rfl⟩ := List.mem_map.mp hfile
      simp only [touched]
      split
      · exact le_timeOf_clockFor memory time
      · exact Nat.le_trans (memory.timely old hold) (timeOf_clock_le memory time) }

theorem add_eq_addAt (memory : MemoryTree) (path : Path) (content : ByteArray) :
    memory.add path content = memory.addAt (timeOf (memory.clock + 1)) path content := by
  simp only [add, addAt, clockFor_timeOf_succ]

theorem touch_eq_touchAt (memory : MemoryTree) (path : Path) :
    (memory.touch path).1 = memory.touchAt (timeOf (memory.clock + 1)) path := by
  simp only [touch, touchAt, clockFor_timeOf_succ]

theorem mem_addAt {path : Path} {content : ByteArray} {file : MemoryFile}
    (h : file ∈ (memory.addAt time path content).files) :
    file.modified = time ∨ file ∈ memory.files := by
  rcases mem_place h with ⟨hnew, -⟩ | hold
  · left
    rw [hnew]
  · exact .inr hold

theorem mem_touchAt {path : Path} {file : MemoryFile}
    (h : file ∈ (memory.touchAt time path).files) :
    file.modified = time ∨ file ∈ memory.files := by
  obtain ⟨old, hold, rfl⟩ := List.mem_map.mp h
  split
  · exact .inl rfl
  · exact .inr hold

end SourceRetrieval.MemoryTree
