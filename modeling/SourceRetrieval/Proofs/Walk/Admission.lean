/-
Admitting a file and walking to it.

* `admit?_eq_some_iff` — a file is admitted if nothing on the way to it is
  ignored and it may be looked at;
* `yields_iff_admits` — a walk yields a file that lies below no other just if it
  is admitted and no directory on the way to it is excluded.

Design notes: `admit?` asks the exclude patterns about the file alone, a walk
asks them about the directories too.  The two differ for globs with a slash,
which may match a directory and nothing below it; other patterns match with a
directory all that lies below it.
-/
import SourceRetrieval.Proofs.Glob.Descendant
import SourceRetrieval.Proofs.Path.Relative
import SourceRetrieval.Proofs.Walk.Coverage

namespace SourceRetrieval

open SourceRetrieval.Path

/-- No file of the tree lies below another. -/
def MemoryTree.Separated (memory : MemoryTree) : Prop :=
  ∀ cs, memory.Holds cs → memory.IsLeaf cs

namespace Walker

variable {walker : Walker} {memory : MemoryTree} {path : Path} {steps : List Component}

theorem isIgnored_eq {tree : FileTree} (hpath : path.components = walker.root.components ++ steps) :
    walker.isIgnored tree path = walker.isIgnoredFrom tree walker.root [] steps := by
  rw [isIgnored, under?_eq_some_iff.mpr hpath]
  cases hrespect : walker.respectIgnoreFiles with
  | false => exact (isIgnoredFrom_of_not_respect hrespect _ _).symm
  | true => rfl

theorem admit?_eq_some_iff {tree : FileTree}
    (hpath : path.components = walker.root.components ++ steps) {candidate : Candidate} :
    walker.admit? tree path = some candidate ↔
      walker.isIgnoredFrom tree walker.root [] steps = false
        ∧ walker.filter? tree path = some candidate := by
  rw [admit?, isIgnored_eq hpath]
  cases walker.isIgnoredFrom tree walker.root [] steps <;> simp

/-- What a walk yields is admitted. -/
theorem admit?_of_mem_walk {candidate : Candidate} (h : candidate ∈ walker.walk memory.tree) :
    walker.admit? memory.tree candidate.path = some candidate := by
  obtain ⟨steps, hne, hclear, hleaf, hfilter⟩ := mem_walk_iff.mp h
  have hpath : candidate.path.components = walker.root.components ++ steps :=
    components_of_filter? hleaf hfilter
  rw [admit?_eq_some_iff hpath, (holds_of_filter? hfilter).1]
  exact ⟨(open_iff.mp (open_root_iff.mpr ⟨hne, hclear⟩)).2.1, hfilter⟩

/-- If no exclude pattern is a glob with a slash, a path below an excluded directory is
excluded. -/
theorem isMatch_excludes_below (hexcludes : walker.excludes.paths.isEmpty = true)
    (hpath : path.components = walker.root.components ++ steps) {front rest : List Component}
    {c : Component} (hsteps : steps = front ++ c :: rest) (hrest : rest ≠ [])
    (h : walker.excludes.isMatch (walker.root.relativeTo (walker.root.descend (front ++ [c])))
      = true) : walker.excludes.isMatch (walker.root.relativeTo path) = true := by
  have hsplit : path.components = (walker.root.components ++ (front ++ [c])) ++ rest := by
    rw [hpath, hsteps]
    simp only [List.append_assoc, List.singleton_append]
  have hwf := wellFormed_components path
  rw [hsplit] at hwf
  have hbelow : (walker.root.relativeTo path).toList
      = (walker.root.relativeTo (walker.root.descend (front ++ [c]))).toList
        ++ '/' :: ['/'].intercalate (rest.map (·.text.toList)) := by
    rw [relativeTo_eq hpath, relativeTo_eq (components_descend hwf.of_append), hsteps,
      List.append_cons, List.map_append]
    exact Text.intercalate_append (by simp) (by simpa using hrest)
  exact PatternSet.isMatch_below hexcludes hbelow h

/-- In a tree in which no file lies below another, a walk yields a file of the workspace just if
the file is admitted, is not the root and no directory on the way to it is excluded; it then
yields the same candidate.  If no exclude pattern is a glob with a slash, a walk yields a
file below the root just if it is admitted. -/
theorem yields_iff_admits (walker : Walker) {memory : MemoryTree} (hseparated : memory.Separated)
    {path : Path} {steps : List Component}
    (hpath : path.components = walker.root.components ++ steps) (candidate : Candidate) :
    ((∃ c ∈ walker.walk memory.tree, c.path.components = path.components
        ∧ candidate = { c with path := path }) ↔
      walker.admit? memory.tree path = some candidate ∧ steps ≠ []
        ∧ ∀ front c rest, steps = front ++ c :: rest → rest ≠ [] →
          walker.excludes.isMatch
            (walker.root.relativeTo (walker.root.descend (front ++ [c]))) = false)
    ∧ (walker.excludes.paths.isEmpty = true → steps ≠ [] →
      ((∃ c ∈ walker.walk memory.tree, c.path.components = path.components
          ∧ candidate = { c with path := path }) ↔
        walker.admit? memory.tree path = some candidate)) := by
  have hiff : (∃ c ∈ walker.walk memory.tree, c.path.components = path.components
        ∧ candidate = { c with path := path }) ↔
      walker.admit? memory.tree path = some candidate ∧ steps ≠ []
        ∧ ∀ front c rest, steps = front ++ c :: rest → rest ≠ [] →
          walker.excludes.isMatch
            (walker.root.relativeTo (walker.root.descend (front ++ [c]))) = false := by
    rw [exists_mem_walk_iff hpath, admit?_eq_some_iff hpath]
    constructor
    · rintro ⟨hfilter, hne, hclear, -⟩
      exact ⟨⟨(open_iff.mp (open_root_iff.mpr ⟨hne, hclear⟩)).2.1, hfilter⟩, hne,
        hclear.not_excluded⟩
    · -- In a separated tree nothing lies below the file, so it is not listed as a directory.
      rintro ⟨⟨hignored, hfilter⟩, hne, hexcluded⟩
      have hopen : walker.Open memory.tree walker.root [] steps := by
        refine open_iff.mpr ⟨hne, hignored, ?_⟩
        rintro ⟨front, c, rest, hsteps, hrest, h⟩
        rw [hexcluded front c rest hsteps hrest] at h
        exact Bool.false_ne_true h
      exact ⟨hfilter, hne, (open_root_iff.mp hopen).2,
        hseparated _ (holds_of_filter? hfilter).2.2⟩
  refine ⟨hiff, fun hexcludes hne => ?_⟩
  rw [hiff]
  refine ⟨fun h => h.1, fun hadmitted => ⟨hadmitted, hne, fun front c rest hsteps hrest => ?_⟩⟩
  -- The file itself is not excluded, so no directory on the way to it is.
  have hwants := (filter?_eq_some_iff.mp ((admit?_eq_some_iff hpath).mp hadmitted).2).1
  have hfile : walker.excludes.isMatch (walker.root.relativeTo path) = false := by
    rw [wants] at hwants
    simp only [Bool.and_eq_true, Bool.not_eq_true'] at hwants
    exact hwants.1.1.1.1
  rw [← Bool.not_eq_true]
  intro h
  rw [isMatch_excludes_below hexcludes hpath hsteps hrest h] at hfile
  exact Bool.false_ne_true hfile.symm

/-- A tree of one file. -/
def generatedFile : MemoryTree := (default : MemoryTree).add ⟨"/ws/src/gen/a.ts"⟩ "x".toUTF8

/-- A walker that excludes what some patterns match. -/
def excluding (patterns : List String) : Walker :=
  { root := ⟨"/ws"⟩, maxFileSize := 1048576, excludes := PatternSet.ofTexts .standard patterns }

theorem separated_generatedFile : generatedFile.Separated := by
  intro cs hcs
  refine ⟨hcs, fun next rest hbelow => ?_⟩
  obtain ⟨file, hfile, rfl⟩ := hcs
  obtain ⟨file', hfile', hpath⟩ := hbelow
  rw [List.mem_singleton.mp hfile, List.mem_singleton.mp hfile'] at hpath
  exact absurd hpath (by simp)

/-- A plain name that matches nothing on the way lets the file through. -/
theorem yields_generatedFile :
    generatedFile.Separated
      ∧ (⟨"/ws/src/gen/a.ts"⟩ : Path).components = (excluding ["vendor"]).root.components
        ++ [.normal "src", .normal "gen", .normal "a.ts"]
      ∧ ∃ c ∈ (excluding ["vendor"]).walk generatedFile.tree,
        c.path.components = (⟨"/ws/src/gen/a.ts"⟩ : Path).components := by
  have hpath : (⟨"/ws/src/gen/a.ts"⟩ : Path).components = (excluding ["vendor"]).root.components
      ++ [.normal "src", .normal "gen", .normal "a.ts"] := by
    decide
  have hadmitted : ((excluding ["vendor"]).admit? generatedFile.tree ⟨"/ws/src/gen/a.ts"⟩).isSome
      = true := by
    decide +kernel
  have hexcludes : (excluding ["vendor"]).excludes.paths.isEmpty = true := by
    decide
  obtain ⟨candidate, hcandidate⟩ := Option.isSome_iff_exists.mp hadmitted
  obtain ⟨c, hc, hcomponents, -⟩ := ((yields_iff_admits (excluding ["vendor"])
    separated_generatedFile hpath candidate).2 hexcludes (List.cons_ne_nil _ _)).mpr hcandidate
  exact ⟨separated_generatedFile, hpath, c, hc, hcomponents⟩

/-- A glob with a slash may exclude a directory and admit a file below it, which a walk does
not yield. -/
theorem not_forall_yields_iff_admits :
    ¬∀ (walker : Walker) (memory : MemoryTree) (path : Path), memory.Separated →
      path.isUnder walker.root = true →
      ((∃ c ∈ walker.walk memory.tree, c.path.components = path.components) ↔
        (walker.admit? memory.tree path).isSome = true) := by
  intro h
  have hadmitted : ((excluding ["src/gen"]).admit? generatedFile.tree ⟨"/ws/src/gen/a.ts"⟩).isSome
      = true := by
    decide +kernel
  have hwalk : (excluding ["src/gen"]).walk generatedFile.tree = [] := by
    decide +kernel
  obtain ⟨c, hc, -⟩ := (h (excluding ["src/gen"]) generatedFile ⟨"/ws/src/gen/a.ts"⟩
    separated_generatedFile (by decide)).mpr hadmitted
  rw [hwalk] at hc
  exact List.not_mem_nil hc

end Walker

end SourceRetrieval
