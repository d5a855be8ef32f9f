/-
How much a directory in memory weighs.

The weight of a directory bounds the number of directories at and below it.  It
is more than the weights of its subdirectories together (`sum_weight_lt`), and
no directory weighs more than the bound of the tree (`weight_le_directoryBound`).

Design notes: each file gives a directory the number of directories between the
two.  A file reached through a subdirectory gives that one less, which leaves
room for the subdirectory itself.
-/
import Mathlib.Algebra.Order.BigOperators.Group.List
import Mathlib.Algebra.Order.Group.Nat
import Mathlib.Algebra.Ring.Nat
import SourceRetrieval.Proofs.FileTree.Listing

namespace SourceRetrieval.MemoryTree

open SourceRetrieval.Path

/-- The number of directories between a directory and a file below it. -/
def excess (directory : Path) (file : MemoryFile) : Nat :=
  match under? directory file.path with
  | some (_ :: rest) => rest.length
  | _ => 0

/-- What a file that is reached by a step gives to a directory. -/
def share (directory : Path) (file : MemoryFile) (c : Component) : Nat :=
  match under? directory file.path with
  | some (first :: rest) => if first = c then rest.length else 0
  | _ => 0

/-- The weight of a directory. -/
def weight (memory : MemoryTree) (directory : Path) : Nat :=
  (memory.files.map (excess directory)).sum + 1

variable {memory : MemoryTree} {directory : Path}

theorem excess_of_components {file : MemoryFile} {c : Component} {rest : List Component}
    (h : file.path.components = directory.components ++ c :: rest) :
    excess directory file = rest.length := by
  rw [excess, under?_eq_some_iff.mpr h]

theorem excess_of_not_below {file : MemoryFile}
    (h : ∀ c rest, file.path.components ≠ directory.components ++ c :: rest) :
    excess directory file = 0 := by
  rw [excess]
  split
  next c rest hunder => exact absurd (under?_eq_some_iff.mp hunder) (h c rest)
  next => rfl

theorem share_of_components {file : MemoryFile} {c : Component} {rest : List Component}
    (h : file.path.components = directory.components ++ c :: rest) :
    share directory file c = rest.length := by
  rw [share, under?_eq_some_iff.mpr h]
  exact if_pos rfl

theorem excess_le_share {file : MemoryFile} {c : Component} {child : Path}
    (h : child.components = directory.components ++ [c]) :
    excess child file ≤ share directory file c := by
  by_cases hbelow : ∃ next rest, file.path.components = child.components ++ next :: rest
  · obtain ⟨next, rest, hfile⟩ := hbelow
    rw [excess_of_components hfile]
    rw [h, List.append_assoc, List.singleton_append] at hfile
    rw [share_of_components hfile]
    exact Nat.le_succ _
  · rw [excess_of_not_below fun next rest hfile => hbelow ⟨next, rest, hfile⟩]
    exact Nat.zero_le _

/-- A subdirectory weighs no more than what the files reached through it give to the directory
above. -/
theorem weight_le_sum_share {c : Component} {entry : DirEntry}
    (hleads : memory.LeadsTo directory c entry) (hdir : entry.isDir = true) :
    memory.weight entry.path ≤ (memory.files.map (share directory · c)).sum := by
  obtain ⟨next, rest, file, hfile, hcomponents⟩ := hleads.isDir_iff.mp hdir
  have hbelow : file.path.components = entry.path.components ++ next :: rest := by
    rw [hleads.components, hcomponents, List.append_assoc, List.singleton_append]
  have hlt : excess entry.path file < share directory file c := by
    rw [excess_of_components hbelow, share_of_components hcomponents]
    exact Nat.lt_succ_self _
  -- The file behind the directory gives one less to it, which pays for the directory itself.
  exact List.sum_lt_sum _ _ (fun other _ => excess_le_share hleads.components) ⟨file, hfile, hlt⟩

theorem sum_ite_le {cs : List Component} (hcs : cs.Nodup) (first : Component) (n : Nat) :
    (cs.map fun c => if c = first then n else 0).sum ≤ n := by
  induction cs with
  | nil => exact Nat.zero_le n
  | cons c cs ih =>
    obtain ⟨hc, hcs⟩ := List.nodup_cons.mp hcs
    rw [List.map_cons, List.sum_cons]
    by_cases hfirst : c = first
    · -- No step comes twice, so all the others give nothing.
      subst hfirst
      have hzero : ∀ d ∈ cs, (if d = c then n else 0) = 0 := fun d hd =>
        if_neg (ne_of_mem_of_not_mem hd hc)
      rw [if_pos rfl, List.map_congr_left hzero, List.sum_map_zero, Nat.add_zero]
    · rw [if_neg hfirst, Nat.zero_add]
      exact ih hcs

/-- What a file gives through several steps is no more than what it gives. -/
theorem sum_share_le {cs : List Component} (hcs : cs.Nodup) (file : MemoryFile) :
    (cs.map (share directory file)).sum ≤ excess directory file := by
  by_cases hbelow : ∃ c rest, file.path.components = directory.components ++ c :: rest
  · obtain ⟨first, rest, hfile⟩ := hbelow
    have hshare : ∀ c, share directory file c = if c = first then rest.length else 0 := by
      intro c
      rw [share, under?_eq_some_iff.mpr hfile]
      simp only [eq_comm]
    rw [excess_of_components hfile, funext hshare]
    exact sum_ite_le hcs first _
  · have hshare : ∀ c ∈ cs, share directory file c = 0 := by
      intro c _
      rw [share]
      split
      next first rest hunder => exact absurd ⟨first, rest, under?_eq_some_iff.mp hunder⟩ hbelow
      next => rfl
    rw [List.map_congr_left hshare, List.sum_map_zero]
    exact Nat.zero_le _

theorem sum_map_share_le {cs : List Component} (hcs : cs.Nodup) (files : List MemoryFile) :
    (cs.map fun c => (files.map (share directory · c)).sum).sum
      ≤ (files.map (excess directory)).sum := by
  induction files with
  | nil => simp
  | cons file files ih =>
    simp only [List.map_cons, List.sum_cons, List.sum_map_add]
    exact Nat.add_le_add (sum_share_le hcs file) ih

/-- Different entries are reached by different steps. -/
theorem exists_steps {entries : List DirEntry} (hordered : entries.Pairwise DirEntry.Precedes)
    (hleads : ∀ entry ∈ entries, ∃ c, memory.LeadsTo directory c entry) :
    ∃ cs : List Component, cs.Nodup ∧ List.Forall₂ (memory.LeadsTo directory) cs entries
      ∧ ∀ c ∈ cs, ∃ entry ∈ entries, memory.LeadsTo directory c entry := by
  induction entries with
  | nil => exact ⟨[], List.nodup_nil, .nil, by nofun⟩
  | cons entry entries ih =>
    obtain ⟨hfirst, hrest⟩ := List.pairwise_cons.mp hordered
    obtain ⟨cs, hcs, hall, hmem⟩ := ih hrest fun e he => hleads e (List.mem_cons_of_mem _ he)
    obtain ⟨c, hc⟩ := hleads entry List.mem_cons_self
    have hnew : c ∉ cs := by
      intro hold
      obtain ⟨e, he, hec⟩ := hmem c hold
      exact components_ne_of_lt (hfirst e he) (hc.components.trans hec.components.symm)
    refine ⟨c :: cs, List.nodup_cons.mpr ⟨hnew, hcs⟩, .cons hc hall, fun d hd => ?_⟩
    rcases List.mem_cons.mp hd with rfl | hd
    · exact ⟨entry, List.mem_cons_self, hc⟩
    · obtain ⟨e, he, hec⟩ := hmem d hd
      exact ⟨e, List.mem_cons_of_mem _ he, hec⟩

/-- The subdirectories of a directory together weigh less than it. -/
theorem sum_weight_lt {entries : List DirEntry} (hordered : entries.Pairwise DirEntry.Precedes)
    (hleads : ∀ entry ∈ entries, ∃ c, memory.LeadsTo directory c entry)
    (hdir : ∀ entry ∈ entries, entry.isDir = true) :
    (entries.map (memory.weight ·.path)).sum < memory.weight directory := by
  obtain ⟨cs, hcs, hall, -⟩ := exists_steps hordered hleads
  have hle : (entries.map (memory.weight ·.path)).sum
      ≤ (cs.map fun c => (memory.files.map (share directory · c)).sum).sum := by
    clear hordered hleads hcs
    induction hall with
    | nil => exact Nat.le_refl _
    | cons hleads _ ih =>
      rw [List.map_cons, List.map_cons, List.sum_cons, List.sum_cons]
      refine Nat.add_le_add (weight_le_sum_share hleads (hdir _ List.mem_cons_self)) ?_
      exact ih fun e he => hdir e (List.mem_cons_of_mem _ he)
  exact Nat.lt_succ_of_le (hle.trans (sum_map_share_le hcs memory.files))

theorem weight_lt {entry : DirEntry} {c : Component} (hleads : memory.LeadsTo directory c entry)
    (hdir : entry.isDir = true) : memory.weight entry.path < memory.weight directory := by
  have := @sum_weight_lt memory directory [entry] (List.pairwise_singleton _ _)
    (by simpa using ⟨c, hleads⟩) (by simpa using hdir)
  simpa using this

theorem weight_le_directoryBound (memory : MemoryTree) (directory : Path) :
    memory.weight directory ≤ memory.tree.directoryBound := by
  have hexcess : ∀ file, excess directory file ≤ file.path.components.length := by
    intro file
    by_cases hbelow : ∃ c rest, file.path.components = directory.components ++ c :: rest
    · obtain ⟨c, rest, hfile⟩ := hbelow
      rw [excess_of_components hfile, hfile, List.length_append, List.length_cons]
      omega
    · rw [excess_of_not_below fun c rest hfile => hbelow ⟨c, rest, hfile⟩]
      exact Nat.zero_le _
  change (memory.files.map (excess directory)).sum + 1
    ≤ memory.files.foldr (fun file sum => file.path.components.length + sum) 1
  induction memory.files with
  | nil => exact Nat.le_refl _
  | cons file files ih =>
    rw [List.map_cons, List.sum_cons, List.foldr_cons, Nat.add_assoc]
    exact Nat.add_le_add (hexcess file) ih

end SourceRetrieval.MemoryTree
