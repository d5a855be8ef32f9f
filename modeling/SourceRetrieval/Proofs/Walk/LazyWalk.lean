/-
Walking lazily.

A lazy walk keeps the files that it has found and not yet looked at besides the
directories that it has still to enter, and finds out one file or one directory
at a time.

* `Underway.advance` — one step of a lazy walk;
* `Yields` — the walk ends after having yielded these candidates;
* `yields_emit` — a walk of a tree in memory ends, and what it yields is what the
  files and the directories it keeps stand for.

Design notes: a step is a function, so a walk that ends does so in one way
(`Yields.unique`).  The files are worked off first; then the directory entered
gives way to lighter ones.
-/
import SourceRetrieval.Proofs.Walk.Emission

namespace SourceRetrieval.Walker

open MemoryTree

/-- A walk under way. -/
structure Underway where
  /-- Files found and not yet looked at. -/
  files : List Path
  /-- Directories to enter, the topmost first. -/
  directories : List Pending

/-- One step of a walk: the candidate yielded, if any, and the walk from there; none if the
walk is over. -/
def Underway.advance (walker : Walker) (tree : FileTree) :
    Underway → Option (Option Candidate × Underway)
  | ⟨path :: files, directories⟩ => some (walker.filter? tree path, ⟨files, directories⟩)
  | ⟨[], (directory, above) :: rest⟩ =>
    let (files, directories) := walker.expand tree directory above
    some (none, ⟨files, directories ++ rest⟩)
  | ⟨[], []⟩ => none

/-- The walk ends after having yielded these candidates. -/
inductive Yields (walker : Walker) (tree : FileTree) : Underway → List Candidate → Prop
  | done {state : Underway} : state.advance walker tree = none → Yields walker tree state []
  | step {state next : Underway} {found : Option Candidate} {rest : List Candidate} :
    state.advance walker tree = some (found, next) → Yields walker tree next rest →
      Yields walker tree state (found.toList ++ rest)

/-- A walk that has not entered anything. -/
def start (walker : Walker) : Underway := ⟨[], [(walker.root, [])]⟩

variable {walker : Walker} {memory : MemoryTree}

theorem Yields.unique {tree : FileTree} {state : Underway} {yielded yielded' : List Candidate}
    (h : Yields walker tree state yielded) (h' : Yields walker tree state yielded') :
    yielded = yielded' := by
  induction h generalizing yielded' with
  | done hnone =>
    cases h' with
    | done _ => rfl
    | step hsome _ =>
      rw [hnone] at hsome
      cases hsome
  | step hsome _ ih =>
    cases h' with
    | done hnone =>
      rw [hnone] at hsome
      cases hsome
    | step hsome' hrest =>
      obtain ⟨rfl, rfl⟩ := Prod.mk.inj (Option.some.inj (hsome.symm.trans hsome'))
      rw [ih hrest]

/-- The files found are looked at before the next directory is entered. -/
theorem yields_files {tree : FileTree} {directories : List Pending} {yielded : List Candidate}
    (h : Yields walker tree ⟨[], directories⟩ yielded) (files : List Path) :
    Yields walker tree ⟨files, directories⟩ (files.filterMap (walker.filter? tree) ++ yielded) := by
  induction files with
  | nil => exact h
  | cons path files ih =>
    have hstep := Yields.step (show Underway.advance walker tree ⟨path :: files, directories⟩
      = some (walker.filter? tree path, ⟨files, directories⟩) from rfl) ih
    rw [List.filterMap_cons]
    cases hpath : walker.filter? tree path with
    | none => simpa [hpath] using hstep
    | some candidate => simpa [hpath] using hstep

/-- A walk of a tree in memory ends, having yielded what the files and the directories it
keeps stand for. -/
theorem yields_emit (walker : Walker) (memory : MemoryTree) (files : List Path)
    (directories : List Pending) :
    Yields walker memory.tree ⟨files, directories⟩
      (files.filterMap (walker.filter? memory.tree)
        ++ directories.flatMap fun pending => walker.emit memory pending.1 pending.2) := by
  induction hweight : stackWeight memory directories using Nat.strong_induction_on
    generalizing files directories with
  | _ weight ih =>
    refine yields_files ?_ files
    -- No file is left to look at, so the walk is over or enters the topmost directory.
    match directories with
    | [] => exact .done rfl
    | (directory, above) :: rest =>
      have hlt : stackWeight memory ((walker.expand memory.tree directory above).2 ++ rest)
          < weight := by
        have := stackWeight_expand_lt walker memory directory above
        rw [← hweight, stackWeight_cons, stackWeight_append]
        exact Nat.add_lt_add_right this _
      have hrest := ih _ hlt (walker.expand memory.tree directory above).1 _ rfl
      rw [List.flatMap_cons, emit_eq_expand, List.append_assoc, ← List.flatMap_append]
      exact @Yields.step _ _ _ _ none _ rfl hrest

end SourceRetrieval.Walker
