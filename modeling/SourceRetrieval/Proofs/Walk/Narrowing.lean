/-
Walks with narrower settings.

A walker narrows another one (`Narrows`) if it excludes what that one excludes, wants
nothing else, allows no larger files, and respects ignore files if that one does.

* `walk_sublist` — the walk of a narrower walker is a part of that of the wider one, in the
  same order;
* `walk_sublist_of_stricter` — so is the walk with one setting made stricter, as long as no
  further exclude pattern is lost;
* `walk_of_blanks` — blank patterns change nothing, unless they are the only ones there are
  to include files.

Design notes: the two walks are compared directory by directory, each with its own rules of
ignore files.  These are the same, or the wider walker goes by none at all (`Covers`).
Walkers that narrow each other yield the same.
-/
import Mathlib.Data.List.Flatten
import SourceRetrieval.Proofs.Glob.Union
import SourceRetrieval.Proofs.Walk.Coverage

namespace SourceRetrieval

theorem filterMap_sublist_of_imp {α β : Type} {f g : α → Option β}
    (h : ∀ x y, f x = some y → g x = some y) (list : List α) :
    (list.filterMap f).Sublist (list.filterMap g) := by
  induction list with
  | nil => exact .slnil
  | cons x list ih =>
    rw [List.filterMap_cons, List.filterMap_cons]
    cases hf : f x with
    | none =>
      cases g x with
      | none => exact ih
      | some y => exact ih.cons y
    | some y =>
      rw [h x y hf]
      exact ih.cons_cons y

namespace Walker

open MemoryTree SourceRetrieval.Path PathPattern PatternSet

/-- A walker is no more generous than another one in any of its settings. -/
structure Narrows (narrow wide : Walker) : Prop where
  root_eq : narrow.root = wide.root
  excludes : ∀ relative, wide.excludes.isMatch relative = true →
    narrow.excludes.isMatch relative = true
  includes : ∀ relative, (narrow.includes.isEmpty || narrow.includes.isMatch relative) = true →
    (wide.includes.isEmpty || wide.includes.isMatch relative) = true
  languages : ∀ language, narrow.wantsLanguage language = true →
    wide.wantsLanguage language = true
  tests : narrow.includeTests = true → wide.includeTests = true
  docs : narrow.includeDocs = true → wide.includeDocs = true
  size_le : narrow.maxFileSize ≤ wide.maxFileSize
  respects : wide.respectIgnoreFiles = true → narrow.respectIgnoreFiles = true
  globs_eq : narrow.globs = wide.globs

theorem Narrows.refl (walker : Walker) : Narrows walker walker :=
  ⟨rfl, fun _ h => h, fun _ h => h, fun _ h => h, id, id, le_rfl, id, rfl⟩

/-- Two walkers go by the same rules of ignore files, or the wide one goes by none. -/
def Covers (narrow wide : Walker) (rules rules' : IgnoreChain) : Prop :=
  (narrow.respectIgnoreFiles = wide.respectIgnoreFiles ∧ rules = rules')
    ∨ (wide.respectIgnoreFiles = false ∧ rules' = [])

variable {narrow wide : Walker} {memory : MemoryTree} {tree : FileTree}
  {rules rules' : IgnoreChain}

/-! ### Single files -/

theorem Narrows.wants (h : Narrows narrow wide) {relative : String} {language : Option Language}
    (hnarrow : narrow.wants relative language = true) : wide.wants relative language = true := by
  simp only [Walker.wants, Bool.and_eq_true] at hnarrow ⊢
  obtain ⟨⟨⟨⟨hexcluded, hincluded⟩, hlanguage⟩, htest⟩, hdoc⟩ := hnarrow
  refine ⟨⟨⟨⟨?_, h.includes _ hincluded⟩, h.languages _ hlanguage⟩, ?_⟩, ?_⟩
  · rw [Bool.not_eq_true', ← Bool.not_eq_true] at hexcluded ⊢
    exact fun hwide => hexcluded (h.excludes _ hwide)
  · rw [← h.globs_eq, Bool.or_eq_true]
    rw [Bool.or_eq_true] at htest
    exact htest.imp_left h.tests
  · rw [Bool.or_eq_true] at hdoc ⊢
    exact hdoc.imp_left h.docs

theorem filter?_of_narrows (h : Narrows narrow wide) {path : Path} {candidate : Candidate}
    (hnarrow : narrow.filter? tree path = some candidate) :
    wide.filter? tree path = some candidate := by
  obtain ⟨hwants, known, hknown, hdir, hsize, rfl⟩ := filter?_eq_some_iff.mp hnarrow
  rw [h.root_eq] at hwants ⊢
  exact filter?_eq_some_iff.mpr
    ⟨h.wants hwants, known, hknown, hdir, hsize.trans h.size_le, rfl⟩

/-! ### The rules in force -/

theorem covers_nil (h : Narrows narrow wide) : Covers narrow wide [] [] := by
  cases hwide : wide.respectIgnoreFiles with
  | true => exact .inl ⟨(h.respects hwide).trans hwide.symm, rfl⟩
  | false => exact .inr ⟨hwide, rfl⟩

/-- What is covered stays so in a subdirectory. -/
theorem Covers.enter (h : Narrows narrow wide) (hcovers : Covers narrow wide rules rules')
    (tree : FileTree) (directory : Path) :
    Covers narrow wide (narrow.enter tree directory rules) (wide.enter tree directory rules') := by
  rcases hcovers with ⟨hrespect, rfl⟩ | ⟨hwide, rfl⟩
  · refine .inl ⟨hrespect, ?_⟩
    rw [Walker.enter, Walker.enter, ignoreFiles, ignoreFiles, hrespect, h.root_eq, h.globs_eq]
  · refine .inr ⟨hwide, ?_⟩
    rw [Walker.enter, hwide]
    rfl

theorem Covers.isIgnored (hcovers : Covers narrow wide rules rules') {path : Path} {isDir : Bool}
    (h : rules'.isIgnored path isDir = true) : rules.isIgnored path isDir = true := by
  rcases hcovers with ⟨-, rfl⟩ | ⟨-, rfl⟩
  · exact h
  · cases h

theorem Covers.not_isIgnored (hcovers : Covers narrow wide rules rules') {path : Path}
    {isDir : Bool} (h : (!rules.isIgnored path isDir) = true) :
    (!rules'.isIgnored path isDir) = true := by
  rw [Bool.not_eq_true', ← Bool.not_eq_true] at h ⊢
  exact fun hwide => h (hcovers.isIgnored hwide)

/-- What the wide walker finds ignored on the way, the narrow one does too. -/
theorem Covers.isIgnoredFrom (h : Narrows narrow wide) (hcovers : Covers narrow wide rules rules')
    {here : Path} {steps : List Component}
    (hwide : wide.isIgnoredFrom tree here rules' steps = true) :
    narrow.isIgnoredFrom tree here rules steps = true := by
  induction steps generalizing here rules rules' with
  | nil => cases hwide
  | cons step steps ih =>
    rw [Walker.isIgnoredFrom, Bool.or_eq_true] at hwide ⊢
    have henter := hcovers.enter h tree here
    exact hwide.imp henter.isIgnored (ih henter)

theorem admit?_of_narrows (h : Narrows narrow wide) {path : Path} {candidate : Candidate}
    (hnarrow : narrow.admit? tree path = some candidate) :
    wide.admit? tree path = some candidate := by
  rw [admit?, Option.ite_none_left_eq_some] at hnarrow ⊢
  refine ⟨fun hwide => hnarrow.1 ?_, filter?_of_narrows h hnarrow.2⟩
  rw [isIgnored, Bool.and_eq_true, Option.any_eq_true] at hwide ⊢
  obtain ⟨hrespect, steps, hsteps, hignored⟩ := hwide
  rw [h.root_eq]
  refine ⟨h.respects hrespect, steps, hsteps, ?_⟩
  exact (covers_nil h).isIgnoredFrom h hignored

/-! ### Directories -/

theorem keptFiles_sublist (hcovers : Covers narrow wide rules rules') (entries : List DirEntry) :
    (keptFiles rules entries).Sublist (keptFiles rules' entries) := by
  refine List.monotone_filter_right _ fun entry hentry => ?_
  obtain ⟨hfile, hignored⟩ := (Bool.and_eq_true _ _).mp hentry
  exact (Bool.and_eq_true _ _).mpr ⟨hfile, hcovers.not_isIgnored hignored⟩

theorem keptDirectories_sublist (h : Narrows narrow wide)
    (hcovers : Covers narrow wide rules rules') (entries : List DirEntry) :
    (narrow.keptDirectories rules entries).Sublist (wide.keptDirectories rules' entries) := by
  refine List.monotone_filter_right _ fun entry hentry => ?_
  simp only [Bool.and_eq_true] at hentry ⊢
  obtain ⟨⟨⟨hdir, hignored⟩, hlink⟩, hexcluded⟩ := hentry
  refine ⟨⟨⟨hdir, hcovers.not_isIgnored hignored⟩, hlink⟩, ?_⟩
  rw [h.root_eq, Bool.not_eq_true', ← Bool.not_eq_true] at hexcluded
  rw [Bool.not_eq_true', ← Bool.not_eq_true]
  exact fun hwide => hexcluded (h.excludes _ hwide)

/-- From every directory the narrow walker yields a part of what the wide one does. -/
theorem emit_sublist (h : Narrows narrow wide) (hcovers : Covers narrow wide rules rules')
    (directory : Path) :
    (narrow.emit memory directory rules).Sublist (wide.emit memory directory rules') := by
  induction hweight : memory.weight directory using Nat.strong_induction_on
    generalizing directory rules rules' with
  | _ weight ih =>
    cases hlist : memory.list directory with
    | error failure =>
      rw [emit_of_error hlist]
      exact List.nil_sublist _
    | ok entries =>
      have henter := hcovers.enter h memory.tree directory
      rw [emit_of_ok hlist, emit_of_ok hlist]
      refine List.Sublist.append ?_ ?_
      · refine ((keptFiles_sublist henter entries).filterMap _).trans ?_
        exact filterMap_sublist_of_imp (fun entry _ => filter?_of_narrows h) _
      · -- A directory that only the wide walker enters takes nothing from those beside it.
        refine (List.Sublist.flatMap_right _ fun entry hentry => ?_).trans
          ((keptDirectories_sublist h henter entries).flatMap _)
        obtain ⟨hentry, hdir, -⟩ := mem_keptDirectories.mp hentry
        obtain ⟨c, hleads⟩ := exists_leadsTo hlist hentry
        exact ih _ (hweight ▸ weight_lt hleads hdir) henter entry.path rfl

/-- A narrower walker yields a part of what a wider one does, in the same order. -/
theorem walk_sublist (h : Narrows narrow wide) (memory : MemoryTree) :
    (narrow.walk memory.tree).Sublist (wide.walk memory.tree) := by
  rw [walk_eq_emit, walk_eq_emit, h.root_eq]
  exact emit_sublist h (covers_nil h) wide.root

/-! ### Stricter settings -/

/-- With more exclude patterns a walker is narrower, unless one is lost that was not. -/
theorem narrows_of_excludes {walker : Walker} {excludes more : List String}
    (hexcludes : walker.excludes = ofTexts walker.globs excludes) (hmore : excludes ⊆ more)
    (hkept : ∀ pattern ∈ readAll walker.globs excludes,
      pattern.isLostAmong walker.globs excludes = false →
      pattern.isLostAmong walker.globs more = false) :
    Narrows { walker with excludes := ofTexts walker.globs more } walker := by
  refine { Narrows.refl walker with excludes := fun relative h => ?_ }
  rw [hexcludes] at h
  obtain ⟨pattern, hpattern, hlost, hmatch⟩ := isMatch_ofTexts_iff.mp h
  exact isMatch_ofTexts_iff.mpr
    ⟨pattern, mem_readAll_of_subset hmore hpattern, hkept pattern hpattern hlost, hmatch⟩

/-- A walker is narrower than one that excludes nothing. -/
theorem narrows_of_isMatch_eq_false (walker : Walker) {set : PatternSet}
    (h : ∀ relative, set.isMatch relative = false) :
    Narrows walker { walker with excludes := set } := by
  refine { Narrows.refl walker with excludes := fun relative hmatch => ?_ }
  exact absurd ((h relative).symm.trans hmatch) Bool.false_ne_true

theorem wantsLanguage_of_nil {walker : Walker} (h : walker.languages = [])
    (language : Option Language) : walker.wantsLanguage language = true := by
  rw [wantsLanguage, h]
  rfl

/-- Of more languages, if some were named before, more are wanted. -/
theorem wantsLanguage_of_subset {walker : Walker} (hne : walker.languages ≠ [])
    {languages : List String} (hsubset : walker.languages ⊆ languages) {language : Option Language}
    (h : walker.wantsLanguage language = true) :
    { walker with languages := languages }.wantsLanguage language = true := by
  rw [wantsLanguage, Bool.or_eq_true, List.isEmpty_iff] at h ⊢
  have hnamed := h.resolve_left hne
  rw [Option.any_eq_true] at hnamed
  obtain ⟨known, hknown, hmatch⟩ := hnamed
  obtain ⟨name, hname, hfilter⟩ := List.any_eq_true.mp hmatch
  refine .inr ((Option.any_eq_true _ _).mpr ⟨known, hknown, ?_⟩)
  exact List.any_eq_true.mpr ⟨name, hsubset hname, hfilter⟩

/-- With one setting made stricter a walk yields a part of what it did, in the same order: with
more exclude patterns, as long as none is lost among them that was not, without tests or
documentation, with a lower limit for sizes, with ignore files respected, or with languages
named where none were.  If some were named, to name more yields all that it did. -/
theorem walk_sublist_of_stricter (walker : Walker) (memory : MemoryTree) :
    (∀ excludes more : List String, walker.excludes = ofTexts walker.globs excludes →
        excludes ⊆ more →
        (∀ pattern ∈ readAll walker.globs excludes,
          pattern.isLostAmong walker.globs excludes = false →
          pattern.isLostAmong walker.globs more = false) →
        ({ walker with excludes := ofTexts walker.globs more }.walk memory.tree).Sublist
          (walker.walk memory.tree))
      ∧ ({ walker with includeTests := false }.walk memory.tree).Sublist (walker.walk memory.tree)
      ∧ ({ walker with includeDocs := false }.walk memory.tree).Sublist (walker.walk memory.tree)
      ∧ (∀ size ≤ walker.maxFileSize,
        ({ walker with maxFileSize := size }.walk memory.tree).Sublist (walker.walk memory.tree))
      ∧ ({ walker with respectIgnoreFiles := true }.walk memory.tree).Sublist
        (walker.walk memory.tree)
      ∧ (walker.languages = [] → ∀ languages,
        ({ walker with languages := languages }.walk memory.tree).Sublist
          (walker.walk memory.tree))
      ∧ (walker.languages ≠ [] → ∀ languages, walker.languages ⊆ languages →
        (walker.walk memory.tree).Sublist
          ({ walker with languages := languages }.walk memory.tree)) := by
  refine ⟨fun excludes more hexcludes hmore hkept => ?_, ?_, ?_, fun size hsize => ?_, ?_,
    fun hnil languages => ?_, fun hne languages hsubset => ?_⟩
  all_goals refine walk_sublist ?_ memory
  · exact narrows_of_excludes hexcludes hmore hkept
  · exact { Narrows.refl walker with tests := nofun }
  · exact { Narrows.refl walker with docs := nofun }
  · exact { Narrows.refl walker with size_le := hsize }
  · exact { Narrows.refl walker with respects := fun _ => rfl }
  · exact { Narrows.refl walker with languages := fun name _ => wantsLanguage_of_nil hnil name }
  · exact { Narrows.refl walker with languages := fun _ => wantsLanguage_of_subset hne hsubset }

/-- A tree of one file. -/
def loneFile : MemoryTree := (default : MemoryTree).add ⟨"/ws/a.ts"⟩ "x".toUTF8

/-- A walker from right above that file, without patterns. -/
def openWalker : Walker := { root := ⟨"/ws"⟩, maxFileSize := 1048576 }

theorem walk_openWalker_ne_nil : openWalker.walk loneFile.tree ≠ [] := by
  decide +kernel

/-- A further exclude pattern that leaves the other one in force lets no file through. -/
theorem walk_sublist_of_stricter_scripts :
    (∀ pattern ∈ readAll openWalker.globs ["*.js"],
        pattern.isLostAmong openWalker.globs ["*.js", "*.ts"] = false)
      ∧ ({ openWalker with excludes := ofTexts openWalker.globs ["*.js", "*.ts"] }.walk
          loneFile.tree).Sublist
        ({ openWalker with excludes := ofTexts openWalker.globs ["*.js"] }.walk loneFile.tree) := by
  have hkept : ∀ pattern ∈ readAll openWalker.globs ["*.js"],
      pattern.isLostAmong openWalker.globs ["*.js", "*.ts"] = false := by decide +kernel
  obtain ⟨hmore, -⟩ := walk_sublist_of_stricter
    { openWalker with excludes := ofTexts openWalker.globs ["*.js"] } loneFile
  exact ⟨hkept, hmore ["*.js"] ["*.js", "*.ts"] rfl (by decide) fun pattern hpattern _ =>
    hkept pattern hpattern⟩

/-- A further exclude pattern may let a file through: one that nests too deep takes the
pattern with it that excludes the file. -/
theorem not_forall_walk_sublist :
    ¬∀ (walker : Walker) (memory : MemoryTree) (excludes more : List String), excludes ⊆ more →
      ({ walker with excludes := ofTexts walker.globs more }.walk memory.tree).Sublist
        ({ walker with excludes := ofTexts walker.globs excludes }.walk memory.tree) := by
  intro h
  have hexcluded : { openWalker with excludes := ofTexts openWalker.globs ["*.ts"] }.walk
      loneFile.tree = [] := by
    decide +kernel
  -- With the deep glob nothing is excluded, so the walk yields what it does without patterns.
  have hnarrows := narrows_of_isMatch_eq_false openWalker isMatch_beside_deepGlob
  have hsublist := (walk_sublist hnarrows loneFile).trans
    (h openWalker loneFile ["*.ts"] [deepGlob, "*.ts"] (List.subset_cons_self _ _))
  rw [hexcluded] at hsublist
  exact walk_openWalker_ne_nil (List.sublist_nil.mp hsublist)

/-! ### Blank patterns -/

/-- A walker with the patterns that some texts stand for. -/
def withPatterns (walker : Walker) (includes excludes : List String) : Walker :=
  { walker with
    includes := ofTexts walker.globs includes
    excludes := ofTexts walker.globs excludes }

theorem isMatch_ofTexts_of_written {globs : GlobLibrary} {texts texts' : List String}
    (h : written texts' = written texts) (path : String) :
    (ofTexts globs texts').isMatch path = (ofTexts globs texts).isMatch path := by
  simp only [PatternSet.isMatch, ofTexts, readAll_of_written h]

theorem isEmpty_ofTexts {globs : GlobLibrary} {texts : List String} :
    (ofTexts globs texts).isEmpty = texts.isEmpty := by
  cases texts <;> rfl

/-- With other blank patterns a walker is no wider, if files are included by patterns just when
they were. -/
theorem narrows_of_written (walker : Walker) {includes includes' excludes excludes' : List String}
    (hincludes : written includes' = written includes)
    (hexcludes : written excludes' = written excludes)
    (hempty : includes'.isEmpty = includes.isEmpty) :
    Narrows (walker.withPatterns includes' excludes') (walker.withPatterns includes excludes) := by
  refine ⟨rfl, fun relative h => ?_, fun relative h => ?_, fun _ h => h, id, id, le_rfl, id, rfl⟩
  · exact (isMatch_ofTexts_of_written hexcludes relative).trans h
  · change ((ofTexts walker.globs includes).isEmpty
      || (ofTexts walker.globs includes).isMatch relative) = true
    rw [isEmpty_ofTexts, ← hempty, ← isEmpty_ofTexts, ← isMatch_ofTexts_of_written hincludes]
    exact h

/-- A walker all of whose patterns to include files are blank, but not without such, wants
nothing. -/
theorem filter?_withPatterns_of_blank (walker : Walker) {includes : List String}
    (hwritten : written includes = []) (hne : includes ≠ []) (excludes : List String)
    (tree : FileTree) (path : Path) :
    (walker.withPatterns includes excludes).filter? tree path = none := by
  refine Option.eq_none_iff_forall_ne_some.mpr fun candidate h => ?_
  obtain ⟨hwants, -⟩ := filter?_eq_some_iff.mp h
  simp only [wants, withPatterns, Bool.and_eq_true, Bool.or_eq_true] at hwants
  obtain ⟨⟨⟨⟨-, hincluded⟩, -⟩, -⟩, -⟩ := hwants
  rcases hincluded with hempty | hmatch
  · rw [isEmpty_ofTexts, List.isEmpty_iff] at hempty
    exact hne hempty
  · -- The patterns are those of no texts at all.
    rw [@isMatch_ofTexts_of_written walker.globs [] includes hwritten] at hmatch
    obtain ⟨pattern, hpattern, -⟩ := isMatch_ofTexts_iff.mp hmatch
    cases hpattern

/-- Blank patterns, wherever they stand, change neither what a walk yields nor what is admitted,
as long as there are patterns to include files after just if there were before.  Where there were
none, blank ones leave nothing to yield or admit. -/
theorem walk_of_blanks (walker : Walker) (memory : MemoryTree)
    {includes includes' excludes excludes' : List String}
    (hincludes : written includes' = written includes)
    (hexcludes : written excludes' = written excludes) :
    let before := walker.withPatterns includes excludes
    let after := walker.withPatterns includes' excludes'
    ((includes' = [] ↔ includes = []) → after.walk memory.tree = before.walk memory.tree
        ∧ ∀ path, after.admit? memory.tree path = before.admit? memory.tree path)
      ∧ (includes = [] → includes' ≠ [] → after.walk memory.tree = []
        ∧ ∀ path, after.admit? memory.tree path = none) := by
  intro before after
  refine ⟨fun hnil => ?_, fun hnil hne => ?_⟩
  · have hempty : includes'.isEmpty = includes.isEmpty := by
      rw [Bool.eq_iff_iff, List.isEmpty_iff, List.isEmpty_iff]
      exact hnil
    -- Either walker narrows the other.
    have hafter : Narrows after before := narrows_of_written walker hincludes hexcludes hempty
    have hbefore : Narrows before after :=
      narrows_of_written walker hincludes.symm hexcludes.symm hempty.symm
    refine ⟨(walk_sublist hafter memory).antisymm (walk_sublist hbefore memory), fun path => ?_⟩
    exact Option.ext fun candidate => ⟨admit?_of_narrows hafter, admit?_of_narrows hbefore⟩
  · have hwritten : written includes' = [] := by
      rw [hincludes, hnil]
      rfl
    have hnone := filter?_withPatterns_of_blank walker hwritten hne excludes' memory.tree
    refine ⟨List.eq_nil_iff_forall_not_mem.mpr fun candidate h => ?_, fun path => ?_⟩
    · obtain ⟨steps, -, -, -, hfilter⟩ := mem_walk_iff.mp h
      rw [hnone] at hfilter
      cases hfilter
    · rw [admit?, hnone, ite_self]

/-- Blanks beside a pattern to include files, and among no patterns to exclude any: the walk
still yields the file. -/
theorem walk_of_blanks_beside :
    written ["", "*.ts", " "] = written ["*.ts"] ∧ written ["\t"] = written []
      ∧ ((openWalker.withPatterns ["", "*.ts", " "] ["\t"]).walk loneFile.tree).map
        (·.relativePath) = ["a.ts"] := by
  have hincludes : written ["", "*.ts", " "] = written ["*.ts"] := by decide
  have hexcludes : written ["\t"] = written [] := by decide
  refine ⟨hincludes, hexcludes, ?_⟩
  have hwalk := ((walk_of_blanks openWalker loneFile hincludes hexcludes).1 (by decide)).1
  rw [hwalk]
  decide +kernel

/-- A blank pattern to include files, where there was none, leaves nothing to yield. -/
theorem not_forall_walk_of_blanks :
    ¬∀ (walker : Walker) (memory : MemoryTree)
      (includes includes' excludes excludes' : List String),
      written includes' = written includes → written excludes' = written excludes →
      (walker.withPatterns includes' excludes').walk memory.tree
        = (walker.withPatterns includes excludes).walk memory.tree
      ∧ ∀ path, (walker.withPatterns includes' excludes').admit? memory.tree path
        = (walker.withPatterns includes excludes).admit? memory.tree path := by
  intro h
  have hafter : (openWalker.withPatterns [" "] []).walk loneFile.tree = [] := by
    decide +kernel
  obtain ⟨hwalk, -⟩ := h openWalker loneFile [] [" "] [] [] (by decide) rfl
  -- No patterns at all are those that the walker has by itself.
  exact walk_openWalker_ne_nil (hwalk.symm.trans hafter)

end Walker

end SourceRetrieval
