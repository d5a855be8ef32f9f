/-
Which files a walk yields.

* `mem_emit_iff` — a walk from a directory yields what is reached by steps that
  are open (`Open`) and below which no file lies;
* `open_iff` — steps are open if nothing on the way is ignored and no directory
  on the way is excluded;
* `pairwise_emit` — no two candidates of a walk have the same path.

Design notes: membership is proved along the steps on one side and along the
recursion of `emit` on the other; that no path comes twice follows from the
steps of different entries being different.
-/
import Mathlib.Data.Option.Basic
import SourceRetrieval.Proofs.Walk.LazyWalk

namespace SourceRetrieval.Walker

open MemoryTree SourceRetrieval.Path

variable {walker : Walker} {memory : MemoryTree} {directory : Path} {above : IgnoreChain}

/-! ### Filtering a file -/

theorem filter?_eq_some_iff {tree : FileTree} {path : Path} {candidate : Candidate} :
    walker.filter? tree path = some candidate ↔
      walker.wants (walker.root.relativeTo path) (Language.ofPath? path) = true
        ∧ ∃ known, (tree.stat path).toOption = some known ∧ known.isDir = false
          ∧ known.size ≤ walker.maxFileSize
          ∧ candidate = ⟨path, walker.root.relativeTo path, Language.ofPath? path, known.size,
              known.modified⟩ := by
  simp only [filter?, Option.bind_eq_bind, Option.bind_eq_some_iff, Option.guard_eq_some',
    Option.pure_def, Option.some_inj, exists_const, Bool.and_eq_true, Bool.not_eq_true',
    decide_eq_true_eq]
  refine and_congr_right fun _ => exists_congr fun known => and_congr_right fun _ => ?_
  rw [and_assoc, @eq_comm _ candidate]

/-- A candidate is a file that may be looked at. -/
theorem holds_of_filter? {path : Path} {candidate : Candidate}
    (h : walker.filter? memory.tree path = some candidate) :
    candidate.path = path ∧ ¬memory.Denies path.components ∧ memory.Holds path.components := by
  obtain ⟨-, known, hknown, hdir, -, rfl⟩ := filter?_eq_some_iff.mp h
  obtain ⟨hdenied, file, hfile, -⟩ := file?_of_stat hknown hdir
  exact ⟨rfl, hdenied, isSome_file?_iff.mp (Option.isSome_of_eq_some hfile)⟩

/-- Whether a path makes a candidate depends on its components, if it is in the workspace. -/
theorem filter?_congr {p q : Path} (h : p.components = q.components)
    (hunder : p.isUnder walker.root = true) {candidate : Candidate} :
    walker.filter? memory.tree q = some candidate ↔
      candidate.path = q ∧ walker.filter? memory.tree p = some { candidate with path := p } := by
  have hrelative : walker.root.relativeTo q = walker.root.relativeTo p := by
    obtain ⟨rest, hrest⟩ := isUnder_iff.mp hunder
    rw [relativeTo, relativeTo, under?_eq_some_iff.mpr hrest, under?_eq_some_iff.mpr (h ▸ hrest)]
  have hlanguage : Language.ofPath? q = Language.ofPath? p := by
    simp only [Language.ofPath?, extension?, fileName?, h]
  have hstat : (memory.tree.stat q).toOption = (memory.tree.stat p).toOption :=
    toOption_stat_congr h.symm
  rw [filter?_eq_some_iff, filter?_eq_some_iff, hrelative, hlanguage, hstat]
  obtain ⟨path, relativePath, language, size, modified⟩ := candidate
  simp only [Candidate.mk.injEq, true_and]
  constructor
  · rintro ⟨hwants, known, hknown, hdir, hsize, rfl, hrest⟩
    exact ⟨rfl, hwants, known, hknown, hdir, hsize, hrest⟩
  · rintro ⟨rfl, hwants, known, hknown, hdir, hsize, hrest⟩
    exact ⟨hwants, known, hknown, hdir, hsize, rfl, hrest⟩

/-! ### Open ways -/

/-- Whether nothing on the way from a directory by some steps is ignored, and no directory on
it is excluded. -/
def Open (walker : Walker) (tree : FileTree) : Path → IgnoreChain → List Component → Prop
  | _, _, [] => False
  | here, above, [c] =>
    (walker.enter tree here above).isIgnored (here.join c.text) false = false
  | here, above, c :: next :: rest =>
    (walker.enter tree here above).isIgnored (here.join c.text) true = false
      ∧ walker.excludes.isMatch (walker.root.relativeTo (here.join c.text)) = false
      ∧ Open walker tree (here.join c.text) (walker.enter tree here above) (next :: rest)

instance decidableOpen (walker : Walker) (tree : FileTree) :
    ∀ (here : Path) (above : IgnoreChain) (steps : List Component),
      Decidable (walker.Open tree here above steps)
  | _, _, [] => inferInstanceAs (Decidable False)
  | _, _, [_] => inferInstanceAs (Decidable (_ = _))
  | here, above, c :: next :: rest =>
    have := decidableOpen walker tree (here.join c.text) (walker.enter tree here above)
      (next :: rest)
    inferInstanceAs (Decidable (_ ∧ _ ∧ _))

/-- A candidate that a walk from a directory yields is reached by open steps. -/
theorem exists_open_of_mem_emit {candidate : Candidate}
    (h : candidate ∈ walker.emit memory directory above) :
    ∃ steps, walker.Open memory.tree directory above steps
      ∧ memory.IsLeaf (directory.components ++ steps)
      ∧ walker.filter? memory.tree (directory.descend steps) = some candidate := by
  induction hweight : memory.weight directory using Nat.strong_induction_on
    generalizing directory above with
  | _ weight ih =>
    cases hlist : memory.list directory with
    | error failure =>
      rw [emit_of_error hlist] at h
      exact absurd h List.not_mem_nil
    | ok entries =>
      rw [emit_of_ok hlist] at h
      rcases List.mem_append.mp h with h | h
      · -- A file of the directory, which is not one to be entered: nothing lies below it.
        obtain ⟨entry, hentry, hfilter⟩ := List.mem_filterMap.mp h
        obtain ⟨hentry, hfile, hignored⟩ := mem_keptFiles.mp hentry
        obtain ⟨c, hleads⟩ := exists_leadsTo hlist hentry
        refine ⟨[c], ?_, ⟨?_, fun next rest hbelow => ?_⟩, ?_⟩
        · rw [hleads.path] at hignored
          exact hignored
        · rw [← hleads.components]
          exact (holds_of_filter? hfilter).2.2
        · rw [List.append_assoc, List.singleton_append] at hbelow
          have hdir := hleads.isDir_iff.mpr ⟨next, rest, hbelow⟩
          rw [hfile] at hdir
          exact absurd hdir Bool.false_ne_true
        · rw [hleads.path] at hfilter
          exact hfilter
      · -- Something below a directory that is entered, reached by one step more.
        obtain ⟨entry, hentry, hbelow⟩ := List.mem_flatMap.mp h
        obtain ⟨hentry, hdir, hignored, -, hexcluded⟩ := mem_keptDirectories.mp hentry
        obtain ⟨c, hleads⟩ := exists_leadsTo hlist hentry
        obtain ⟨steps, hopen, hleaf, hfilter⟩ :=
          ih _ (hweight ▸ weight_lt hleads hdir) hbelow rfl
        rw [hleads.path] at hopen hfilter hignored hexcluded
        rw [hleads.components, List.append_assoc, List.singleton_append] at hleaf
        cases steps with
        | nil => exact absurd hopen id
        | cons next rest =>
          exact ⟨c :: next :: rest, ⟨hignored, hexcluded, hopen⟩, hleaf, hfilter⟩

/-- What open steps lead to is yielded, unless something lies below it. -/
theorem mem_emit_of_open {steps : List Component} {candidate : Candidate}
    (hopen : walker.Open memory.tree directory above steps)
    (hleaf : memory.IsLeaf (directory.components ++ steps))
    (hdenied : ¬memory.Denies (directory.components ++ steps))
    (hfilter : walker.filter? memory.tree (directory.descend steps) = some candidate) :
    candidate ∈ walker.emit memory directory above := by
  induction steps generalizing directory above with
  | nil => exact absurd hopen id
  | cons c steps ih =>
    obtain ⟨entries, hlist⟩ : ∃ entries, memory.list directory = .ok entries :=
      list_of_holds (fun hdenies => hdenied (hdenies.append _)) hleaf.1
    obtain ⟨entry, hentry, hleads⟩ := exists_mem_leadsTo hlist hleaf.1
    rw [emit_of_ok hlist, List.mem_append]
    cases steps with
    | nil =>
      refine .inl (List.mem_filterMap.mpr ⟨entry, mem_keptFiles.mpr ⟨hentry, ?_, ?_⟩, ?_⟩)
      · -- Were it listed as a directory, a file would lie below it.
        rw [Bool.eq_false_iff]
        intro hdir
        obtain ⟨next, rest, hbelow⟩ := hleads.isDir_iff.mp hdir
        refine hleaf.2 next rest ?_
        rwa [List.append_assoc, List.singleton_append]
      · rw [hleads.path]
        exact hopen
      · rw [hleads.path]
        exact hfilter
    | cons next rest =>
      obtain ⟨hignored, hexcluded, hopen⟩ := hopen
      have hdir : entry.isDir = true := hleads.isDir_iff.mpr ⟨next, rest, hleaf.1⟩
      have happend : directory.components ++ c :: next :: rest
          = entry.path.components ++ next :: rest := by
        rw [hleads.components, List.append_assoc, List.singleton_append]
      rw [← hleads.path] at hignored hexcluded hopen
      rw [happend] at hleaf hdenied
      rw [descend_cons, ← hleads.path] at hfilter
      exact .inr (List.mem_flatMap.mpr ⟨entry, mem_keptDirectories.mpr
        ⟨hentry, hdir, hignored, hleads.isSymlink, hexcluded⟩, ih hopen hleaf hdenied hfilter⟩)

/-- A walk from a directory yields what is reached by open steps and below which no file
lies. -/
theorem mem_emit_iff {candidate : Candidate} :
    candidate ∈ walker.emit memory directory above ↔
      ∃ steps, walker.Open memory.tree directory above steps
        ∧ memory.IsLeaf (directory.components ++ steps)
        ∧ walker.filter? memory.tree (directory.descend steps) = some candidate := by
  refine ⟨exists_open_of_mem_emit, fun ⟨steps, hopen, hleaf, hfilter⟩ => ?_⟩
  refine mem_emit_of_open hopen hleaf ?_ hfilter
  rw [← components_descend (wellFormed_of_holds hleaf.1)]
  exact (holds_of_filter? hfilter).2.1

/-- The components of a candidate that some steps lead to. -/
theorem components_of_filter? {steps : List Component} {candidate : Candidate}
    (hleaf : memory.IsLeaf (directory.components ++ steps))
    (h : walker.filter? memory.tree (directory.descend steps) = some candidate) :
    candidate.path.components = directory.components ++ steps := by
  rw [(holds_of_filter? h).1, components_descend (wellFormed_of_holds hleaf.1)]

/-- What is yielded from a directory lies below it. -/
theorem exists_components_of_mem_emit {candidate : Candidate}
    (h : candidate ∈ walker.emit memory directory above) :
    ∃ c rest, candidate.path.components = directory.components ++ c :: rest := by
  obtain ⟨steps, hopen, hleaf, hfilter⟩ := mem_emit_iff.mp h
  cases steps with
  | nil => exact absurd hopen id
  | cons c rest => exact ⟨c, rest, components_of_filter? hleaf hfilter⟩

/-! ### The rules in force -/

/-- The rules of ignore files in force in the directory that some steps lead to. -/
def rulesAt (walker : Walker) (tree : FileTree) : Path → IgnoreChain → List Component → IgnoreChain
  | here, above, [] => walker.enter tree here above
  | here, above, c :: rest => rulesAt walker tree (here.join c.text) (walker.enter tree here above) rest

theorem exists_eq_append_cons {p : List Component → Component → List Component → Prop}
    {c : Component} {steps : List Component} :
    (∃ front d rest, c :: steps = front ++ d :: rest ∧ p front d rest) ↔
      p [] c steps ∨ ∃ front d rest, steps = front ++ d :: rest ∧ p (c :: front) d rest := by
  constructor
  · rintro ⟨front, d, rest, hsteps, hp⟩
    cases front with
    | nil =>
      obtain ⟨rfl, rfl⟩ := List.cons_eq_cons.mp hsteps
      exact .inl hp
    | cons first front =>
      obtain ⟨rfl, rfl⟩ := List.cons_eq_cons.mp hsteps
      exact .inr ⟨front, d, rest, rfl, hp⟩
  · rintro (hp | ⟨front, d, rest, rfl, hp⟩)
    · exact ⟨[], c, steps, rfl, hp⟩
    · exact ⟨c :: front, d, rest, rfl, hp⟩

/-- Steps are ignored if what some of them lead to is. -/
theorem isIgnoredFrom_iff {tree : FileTree} {here : Path} {above : IgnoreChain}
    {steps : List Component} :
    walker.isIgnoredFrom tree here above steps = true ↔
      ∃ front c rest, steps = front ++ c :: rest
        ∧ (walker.rulesAt tree here above front).isIgnored (here.descend (front ++ [c]))
          (!rest.isEmpty) = true := by
  induction steps generalizing here above with
  | nil => simp [isIgnoredFrom]
  | cons c steps ih =>
    rw [exists_eq_append_cons, isIgnoredFrom, Bool.or_eq_true]
    exact or_congr Iff.rfl ih

/-- Without ignore files nothing is ignored. -/
theorem isIgnoredFrom_of_not_respect {tree : FileTree} (h : walker.respectIgnoreFiles = false)
    (here : Path) (steps : List Component) : walker.isIgnoredFrom tree here [] steps = false := by
  have henter : ∀ here, walker.enter tree here [] = [] := by
    intro here
    rw [enter, h]
    rfl
  induction steps generalizing here with
  | nil => rfl
  | cons c steps ih =>
    rw [isIgnoredFrom, henter]
    exact ih _

/-- Steps are open if nothing on the way is ignored and no directory on it is excluded. -/
theorem open_iff {tree : FileTree} {here : Path} {above : IgnoreChain} {steps : List Component} :
    walker.Open tree here above steps ↔
      steps ≠ [] ∧ walker.isIgnoredFrom tree here above steps = false
        ∧ ¬∃ front c rest, steps = front ++ c :: rest ∧ rest ≠ []
          ∧ walker.excludes.isMatch (walker.root.relativeTo (here.descend (front ++ [c]))) = true := by
  induction steps generalizing here above with
  | nil => simp [Open]
  | cons c steps ih =>
    rw [exists_eq_append_cons, isIgnoredFrom, Bool.or_eq_false_iff]
    cases steps with
    | nil => simp [Open, isIgnoredFrom]
    | cons next rest =>
      have hhead : walker.excludes.isMatch (walker.root.relativeTo (here.join c.text)) = false
          ↔ ¬(next :: rest ≠ [] ∧ walker.excludes.isMatch
            (walker.root.relativeTo (here.descend ([] ++ [c]))) = true) := by
        rw [← Bool.not_eq_true]
        exact not_congr (and_iff_right (List.cons_ne_nil _ _)).symm
      rw [Open, ih, hhead, not_or]
      constructor
      · rintro ⟨hignored, hexcluded, -, hbelow, hnone⟩
        exact ⟨List.cons_ne_nil _ _, ⟨hignored, hbelow⟩, hexcluded, hnone⟩
      · rintro ⟨-, ⟨hignored, hbelow⟩, hexcluded, hnone⟩
        exact ⟨hignored, hexcluded, List.cons_ne_nil _ _, hbelow, hnone⟩

/-- Nothing on the way from the root by some steps is ignored, and no directory on it is
excluded. -/
structure IsClear (walker : Walker) (tree : FileTree) (steps : List Component) : Prop where
  not_ignored : ∀ front c rest, steps = front ++ c :: rest →
    (walker.rulesAt tree walker.root [] front).isIgnored (walker.root.descend (front ++ [c]))
      (!rest.isEmpty) = false
  not_excluded : ∀ front c rest, steps = front ++ c :: rest → rest ≠ [] →
    walker.excludes.isMatch (walker.root.relativeTo (walker.root.descend (front ++ [c]))) = false

theorem open_root_iff {tree : FileTree} {steps : List Component} :
    walker.Open tree walker.root [] steps ↔ steps ≠ [] ∧ walker.IsClear tree steps := by
  rw [open_iff]
  refine and_congr_right fun _ => ⟨fun ⟨hignored, hexcluded⟩ => ⟨?_, ?_⟩, fun hclear => ⟨?_, ?_⟩⟩
  · intro front c rest hsteps
    rw [← Bool.not_eq_true] at hignored ⊢
    exact fun h => hignored (isIgnoredFrom_iff.mpr ⟨front, c, rest, hsteps, h⟩)
  · intro front c rest hsteps hrest
    rw [← Bool.not_eq_true]
    exact fun h => hexcluded ⟨front, c, rest, hsteps, hrest, h⟩
  · rw [← Bool.not_eq_true, isIgnoredFrom_iff]
    rintro ⟨front, c, rest, hsteps, h⟩
    rw [hclear.not_ignored front c rest hsteps] at h
    exact Bool.false_ne_true h
  · rintro ⟨front, c, rest, hsteps, hrest, h⟩
    rw [hclear.not_excluded front c rest hsteps hrest] at h
    exact Bool.false_ne_true h

/-! ### No path comes twice -/

theorem components_ne_of_leadsTo {entry entry' : DirEntry} {c c' : Component}
    (hc : memory.LeadsTo directory c entry) (hc' : memory.LeadsTo directory c' entry')
    (hlt : entry.Precedes entry') : c ≠ c' := by
  rintro rfl
  exact components_ne_of_lt hlt (hc.components.trans hc'.components.symm)

/-- No two candidates of a walk have the same components. -/
theorem pairwise_emit (walker : Walker) (memory : MemoryTree) (directory : Path)
    (above : IgnoreChain) :
    (walker.emit memory directory above).Pairwise
      fun a b => a.path.components ≠ b.path.components := by
  induction hweight : memory.weight directory using Nat.strong_induction_on
    generalizing directory above with
  | _ weight ih =>
    cases hlist : memory.list directory with
    | error failure =>
      rw [emit_of_error hlist]
      exact List.Pairwise.nil
    | ok entries =>
      have hordered : (sortEntries entries).Pairwise DirEntry.Precedes := by
        rw [sortEntries_eq hlist]
        exact pairwise_list hlist
      have hleads : ∀ entry ∈ entries, ∃ c, memory.LeadsTo directory c entry :=
        fun entry => exists_leadsTo hlist
      rw [emit_of_ok hlist, List.pairwise_append]
      refine ⟨?_, ?_, ?_⟩
      · -- Two files of the directory are two entries.
        refine List.pairwise_filterMap.mpr ((hordered.filter _).imp ?_)
        intro entry entry' hlt a ha b hb heq
        rw [(holds_of_filter? ha).1, (holds_of_filter? hb).1] at heq
        exact components_ne_of_lt hlt heq
      · -- What two subdirectories yield lies behind two steps.
        refine List.pairwise_flatMap.mpr ⟨fun entry hentry => ?_, ?_⟩
        · obtain ⟨hentry, hdir, -⟩ := mem_keptDirectories.mp hentry
          obtain ⟨c, hc⟩ := hleads entry hentry
          exact ih _ (hweight ▸ weight_lt hc hdir) entry.path _ rfl
        · refine List.Pairwise.imp_of_mem ?_ (hordered.filter _)
          intro entry entry' hentry hentry' hlt a ha b hb heq
          obtain ⟨c, hc⟩ := hleads entry (mem_keptDirectories.mp hentry).1
          obtain ⟨c', hc'⟩ := hleads entry' (mem_keptDirectories.mp hentry').1
          obtain ⟨next, rest, ha⟩ := exists_components_of_mem_emit ha
          obtain ⟨next', rest', hb⟩ := exists_components_of_mem_emit hb
          rw [ha, hb, hc.components, hc'.components, List.append_assoc, List.append_assoc] at heq
          exact components_ne_of_leadsTo hc hc' hlt
            (List.cons_eq_cons.mp (List.append_cancel_left heq)).1
      · -- A file of the directory is one step below it, what a subdirectory yields is more.
        intro a ha b hb heq
        obtain ⟨entry, hentry, ha⟩ := List.mem_filterMap.mp ha
        obtain ⟨entry', hentry', hb⟩ := List.mem_flatMap.mp hb
        obtain ⟨c, hc⟩ := hleads entry (mem_keptFiles.mp hentry).1
        obtain ⟨c', hc'⟩ := hleads entry' (mem_keptDirectories.mp hentry').1
        obtain ⟨next, rest, hb⟩ := exists_components_of_mem_emit hb
        rw [(holds_of_filter? ha).1, hc.components, hb, hc'.components] at heq
        simp at heq

/-! ### The walk -/

/-- No two candidates of the walk have the same components. -/
theorem pairwise_walk (walker : Walker) (memory : MemoryTree) :
    (walker.walk memory.tree).Pairwise fun a b => a.path.components ≠ b.path.components := by
  rw [walk_eq_emit]
  exact pairwise_emit walker memory walker.root []

theorem nodup_walk (walker : Walker) (memory : MemoryTree) : (walker.walk memory.tree).Nodup :=
  (pairwise_walk walker memory).imp fun hne heq => hne (congrArg (·.path.components) heq)

/-- A walk yields what clear steps lead to from the root and below which no file lies. -/
theorem mem_walk_iff {candidate : Candidate} :
    candidate ∈ walker.walk memory.tree ↔
      ∃ steps, steps ≠ [] ∧ walker.IsClear memory.tree steps
        ∧ memory.IsLeaf (walker.root.components ++ steps)
        ∧ walker.filter? memory.tree (walker.root.descend steps) = some candidate := by
  rw [walk_eq_emit, mem_emit_iff]
  simp only [open_root_iff, and_assoc]

/-- Of a file in the workspace that may be looked at a walk yields a candidate if the way to
it is clear and no file lies below it. -/
theorem exists_mem_walk_iff {path : Path} {steps : List Component}
    (hpath : path.components = walker.root.components ++ steps) {candidate : Candidate} :
    (∃ c ∈ walker.walk memory.tree, c.path.components = path.components
        ∧ candidate = { c with path := path }) ↔
      walker.filter? memory.tree path = some candidate ∧ steps ≠ []
        ∧ walker.IsClear memory.tree steps ∧ memory.IsLeaf path.components := by
  have hunder : path.isUnder walker.root = true := isUnder_iff.mpr ⟨steps, hpath⟩
  have hwf : WellFormed (walker.root.components ++ steps) := hpath ▸ wellFormed_components path
  have hdescend := components_descend hwf
  have hcongr := @filter?_congr walker memory path (walker.root.descend steps)
    (hpath.trans hdescend.symm) hunder
  constructor
  · rintro ⟨c, hc, hcomponents, rfl⟩
    obtain ⟨steps', hne, hclear, hleaf, hfilter⟩ := mem_walk_iff.mp hc
    rw [components_of_filter? hleaf hfilter, hpath] at hcomponents
    obtain rfl : steps' = steps := List.append_cancel_left hcomponents
    exact ⟨(hcongr.mp hfilter).2, hne, hclear, hpath ▸ hleaf⟩
  · rintro ⟨hfilter, hne, hclear, hleaf⟩
    refine ⟨{ candidate with path := walker.root.descend steps }, ?_, ?_, ?_⟩
    · refine mem_walk_iff.mpr ⟨steps, hne, hclear, hpath ▸ hleaf, hcongr.mpr ⟨rfl, ?_⟩⟩
      rw [hfilter]
      rw [← (holds_of_filter? hfilter).1]
    · exact hdescend.trans hpath.symm
    · rw [← (holds_of_filter? hfilter).1]

/-- The lazy walk of a tree in memory ends, having yielded what its root emits, which is also
what the walk that works off directories yields.  No path comes twice; nothing is ignored or
below a directory that is ignored or excluded; and every file in the workspace that may be
looked at is yielded, unless it is ignored, a directory on the way to it is ignored or
excluded, or another file lies below it. -/
theorem yields_walk (walker : Walker) (memory : MemoryTree) :
    Yields walker memory.tree walker.start (walker.emit memory walker.root [])
      ∧ walker.walk memory.tree = walker.emit memory walker.root []
      ∧ (walker.walk memory.tree).Pairwise (fun a b => a.path.components ≠ b.path.components)
      ∧ (∀ candidate ∈ walker.walk memory.tree, ∃ steps, steps ≠ []
        ∧ candidate.path = walker.root.descend steps ∧ walker.IsClear memory.tree steps
        ∧ walker.filter? memory.tree candidate.path = some candidate)
      ∧ ∀ (path : Path) (candidate : Candidate) (steps : List Component),
        walker.filter? memory.tree path = some candidate →
        path.components = walker.root.components ++ steps → steps ≠ [] →
        walker.IsClear memory.tree steps → memory.IsLeaf path.components →
        { candidate with path := walker.root.descend steps } ∈ walker.walk memory.tree := by
  refine ⟨?_, walk_eq_emit walker memory, ?_, ?_, ?_⟩
  · have h := yields_emit walker memory [] [(walker.root, [])]
    rwa [List.filterMap_nil, List.nil_append, List.flatMap_singleton] at h
  · rw [walk_eq_emit]
    exact pairwise_emit walker memory walker.root []
  · intro candidate hmem
    obtain ⟨steps, hne, hclear, -, hfilter⟩ := mem_walk_iff.mp hmem
    have hpath := (holds_of_filter? hfilter).1
    exact ⟨steps, hne, hpath, hclear, hpath ▸ hfilter⟩
  · intro path candidate steps hfilter hpath hne hclear hleaf
    obtain ⟨c, hc, hcomponents, rfl⟩ :=
      (exists_mem_walk_iff hpath).mpr ⟨hfilter, hne, hclear, hleaf⟩
    obtain ⟨steps', -, -, hleaf', hfilter'⟩ := mem_walk_iff.mp hc
    rw [components_of_filter? hleaf' hfilter', hpath] at hcomponents
    obtain rfl : steps' = steps := List.append_cancel_left hcomponents
    rw [← (holds_of_filter? hfilter').1]
    exact hc

/-- A tree in which one file lies below another. -/
def fileBelowFile : MemoryTree :=
  ((default : MemoryTree).add ⟨"/ws/a.ts"⟩ "x".toUTF8).add ⟨"/ws/a.ts/b.ts"⟩ "y".toUTF8

/-- A file below which another lies is listed as a directory, so a walk does not yield it even
if the way to it is clear. -/
theorem not_forall_mem_walk_of_isClear :
    ¬∀ (walker : Walker) (memory : MemoryTree) (path : Path) (candidate : Candidate)
      (steps : List Component), walker.filter? memory.tree path = some candidate →
        path.components = walker.root.components ++ steps → steps ≠ [] →
        walker.IsClear memory.tree steps →
        ∃ c ∈ walker.walk memory.tree, c.path.components = path.components := by
  intro h
  let walker : Walker := { root := ⟨"/ws"⟩, maxFileSize := 1048576 }
  have hfilter : (walker.filter? fileBelowFile.tree ⟨"/ws/a.ts"⟩).isSome = true := by
    decide +kernel
  have henter : walker.enter fileBelowFile.tree walker.root [] = [] := by
    refine List.isEmpty_iff.mp ?_
    decide
  have hclear : walker.IsClear fileBelowFile.tree [.normal "a.ts"] := by
    refine (open_root_iff.mp ?_).2
    rw [Open, henter]
    rfl
  obtain ⟨candidate, hcandidate⟩ := Option.isSome_iff_exists.mp hfilter
  obtain ⟨c, hc, hpath⟩ := h walker fileBelowFile ⟨"/ws/a.ts"⟩ candidate [.normal "a.ts"]
    hcandidate (by decide) (List.cons_ne_nil _ _) hclear
  have hwalk : ∀ c ∈ walker.walk fileBelowFile.tree,
      c.path.components ≠ (⟨"/ws/a.ts"⟩ : Path).components := by
    decide +kernel
  exact hwalk c hc hpath

end SourceRetrieval.Walker
