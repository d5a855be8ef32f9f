/-
Where the files that an import names come from.

In whichever language an import is written, what it names is nothing, one file
that was looked for, or the files of a package (`names_candidates`).

Design notes: the ways of the languages differ in the paths that they propose, not
in what becomes of a proposal.  There are two checks, `Resolver.file?` and
`Resolver.packageFiles`, and every path has passed one of them.
-/
import SourceRetrieval.Imports.Resolve

namespace SourceRetrieval.Resolver

/-- The paths are none at all, a file that was looked for, or the files of a package. -/
inductive Names (resolver : Resolver) : List Path → Prop
  | nothing : Names resolver []
  | file {proposed path : Path} : resolver.file? proposed = some path → Names resolver [path]
  | package (extension : String) (testEnd : Option String) (directory : Path) :
    Names resolver (resolver.packageFiles extension testEnd directory)

variable {resolver : Resolver}

/-! ### Proposals -/

theorem names_toList {path? : Option Path}
    (h : ∀ path, path? = some path → ∃ proposed, resolver.file? proposed = some path) :
    resolver.Names path?.toList := by
  cases path? with
  | none => exact .nothing
  | some path =>
    obtain ⟨proposed, hproposed⟩ := h path rfl
    exact .file hproposed

/-- A search that finds files finds one that was looked for. -/
theorem exists_file?_of_findSome? {α : Type} {search : α → Option Path}
    (hsearch : ∀ x path, search x = some path → ∃ proposed, resolver.file? proposed = some path)
    {list : List α} {path : Path} (h : list.findSome? search = some path) :
    ∃ proposed, resolver.file? proposed = some path := by
  obtain ⟨x, -, hx⟩ := List.exists_of_findSome?_eq_some h
  exact hsearch x path hx

theorem exists_file?_of_first? {paths : List Path} {path : Path}
    (h : resolver.first? paths = some path) : ∃ proposed, resolver.file? proposed = some path :=
  exists_file?_of_findSome? (fun proposed _ hproposed => ⟨proposed, hproposed⟩) h

theorem exists_file?_of_probe? {extensions : List String} {index : String} {base path : Path}
    (h : resolver.probe? extensions index base = some path) :
    ∃ proposed, resolver.file? proposed = some path := exists_file?_of_first? h

theorem names_firstNonEmpty {α : Type} {search : α → List Path}
    (hsearch : ∀ x, resolver.Names (search x)) (list : List α) :
    resolver.Names (firstNonEmpty search list) := by
  unfold firstNonEmpty
  cases h : List.findSome? _ list with
  | none => exact .nothing
  | some paths =>
    obtain ⟨x, -, hx⟩ := List.exists_of_findSome?_eq_some h
    rw [Option.getD_some]
    split at hx
    · cases hx
    · rw [← Option.some_inj.mp hx]
      exact hsearch x

/-! ### The ways of the languages -/

theorem names_script (directory : Path) (spec : List Char) :
    resolver.Names (resolver.script directory spec) :=
  names_toList fun _ => exists_file?_of_findSome? fun _ _ => exists_file?_of_probe?

theorem names_python (directory : Path) (spec : List Char) :
    resolver.Names (resolver.python directory spec) := by
  refine names_toList fun _ => exists_file?_of_findSome? fun base path h => ?_
  split at h
  · exact ⟨_, h⟩
  · exact exists_file?_of_probe? h

theorem names_rust (importer : Path) (spec : List Char) :
    resolver.Names (resolver.rust importer spec) := by
  rw [rust]
  split
  · exact names_toList fun _ => exists_file?_of_first?
  · rw [rustPath]
    simp only []
    split
    · exact .nothing
    · exact names_toList fun _ => exists_file?_of_findSome? fun _ _ => exists_file?_of_first?

theorem names_go (spec : List Char) : resolver.Names (resolver.go spec) :=
  names_firstNonEmpty (fun _ => .package _ _ _) _

theorem names_dottedTarget (extension : String) (wildcard : Bool) (base : Path)
    (names taken : List String) :
    resolver.Names (resolver.dottedTarget extension wildcard base names taken) := by
  unfold dottedTarget
  extract_lets target found
  -- A single file goes before the files of a package.
  cases hfound : found with
  | some path =>
    simp only [found] at hfound
    split at hfound
    · cases hfound
    · exact .file hfound
  | none =>
    simp only []
    split
    · exact .package _ _ _
    · exact .nothing

theorem names_dotted (extension : String) (spec : List Char) :
    resolver.Names (resolver.dotted extension spec) :=
  names_firstNonEmpty (fun _ => names_firstNonEmpty (fun _ =>
    names_firstNonEmpty (fun _ => names_dottedTarget _ _ _ _ _) _) _) _

/-- Whatever an import names has been looked for as a file or is of a package. -/
theorem names_candidates (importer : Path) (spec : List Char) (language : Option Language) :
    resolver.Names (resolver.candidates importer spec language) := by
  rw [candidates.eq_def]
  split
  · exact names_python _ _
  · exact names_rust _ _
  · exact names_go _
  · exact names_dotted _ _
  · exact names_dotted _ _
  · exact names_dotted _ _
  · exact names_dotted _ _
  · exact names_script _ _

/-! ### What is left out -/

theorem sublist_dropSame (paths : List Path) : (dropSame paths).Sublist paths := by
  fun_induction dropSame paths with
  | case1 first second rest hsame ih =>
    -- The first of two that are the same is kept, the second left out.
    exact ih.trans ((List.sublist_cons_self second rest).cons_cons first)
  | case2 first second rest hsame ih => exact ih.cons_cons first
  | case3 paths hne => exact List.Sublist.refl paths

/-- What an import names are some of the files found, the importer not among them. -/
theorem exists_names_resolve (importer : Path) (specifier : String) (language : Option Language) :
    ∃ found, resolver.Names found
      ∧ (resolver.resolve importer specifier language).Sublist
        (found.filter fun path => !path.same importer) := by
  rw [resolve]
  simp only []
  split
  · exact ⟨[], .nothing, List.Sublist.refl []⟩
  · exact ⟨_, names_candidates importer _ language, sublist_dropSame _⟩

end SourceRetrieval.Resolver
