/-
The views of a tree in memory.

What is stored at a path is asked in three ways: as a file to read or to look at, as an
entry of a directory, and by listing a directory with all that is below it.

* `leafViews_after` — what the views say after any changes;
* `viewsAgree_after_iff` — they agree if and only if no file is stored below another one;
* `not_forall_viewsAgree_after` — which the changes do not see to.

Design notes: a file is put wherever it is asked to be, also below a file.  An entry is then
a directory for `list` and a file for `stat`, and to list all that is below a directory gives
those files only that have none below them, its leaves.
-/
import SourceRetrieval.Proofs.FileTree.Removal
import SourceRetrieval.Proofs.FileTree.Weight
import SourceRetrieval.Proofs.Path.Parent

namespace SourceRetrieval.MemoryTree

open SourceRetrieval.Path

variable {memory : MemoryTree} {directory path : Path} {cs : List Component}

/-! ### Changes -/

/-- A change of the files of a tree. -/
inductive Change where
  | add (path : Path) (content : ByteArray)
  | touch (path : Path)
  | remove (path : Path)

def apply (memory : MemoryTree) : Change → MemoryTree
  | .add path content => memory.add path content
  | .touch path => (memory.touch path).1
  | .remove path => (memory.remove path).1

/-- The tree that some changes lead to from the empty one. -/
def after (changes : List Change) : MemoryTree := changes.foldl apply default

theorem denied_apply (memory : MemoryTree) (change : Change) :
    (memory.apply change).denied = memory.denied := by
  cases change <;> rfl

theorem denied_after (changes : List Change) : (after changes).denied = [] := by
  have hfold : ∀ memory : MemoryTree, (changes.foldl apply memory).denied = memory.denied := by
    induction changes with
    | nil => exact fun _ => rfl
    | cons change changes ih =>
      intro memory
      rw [List.foldl_cons, ih, denied_apply]
  exact hfold default

theorem not_denies (h : memory.denied = []) (cs : List Component) : ¬memory.Denies cs := by
  rintro ⟨path, hpath, -⟩
  rw [h] at hpath
  exact absurd hpath List.not_mem_nil

/-! ### One path -/

theorem stat_of_file {file : MemoryFile} (hallowed : ¬memory.Denies path.components)
    (hfile : memory.file? path = some file) :
    memory.stat path = .ok ⟨file.content.size, file.modified, false⟩ := by
  rw [stat, checkAccess_eq_ok_iff.mpr hallowed]
  simp only [bind, Except.bind, hfile]
  rfl

theorem read_of_file {file : MemoryFile} (hallowed : ¬memory.Denies path.components)
    (hfile : memory.file? path = some file) : memory.read path = .ok file.content := by
  rw [read, checkAccess_eq_ok_iff.mpr hallowed]
  simp only [bind, Except.bind, hfile]
  rfl

/-- A path below which a file lies is a directory, unless a file is stored there. -/
theorem stat_of_below {next : Component} {rest : List Component}
    (hallowed : ¬memory.Denies path.components) (hnone : memory.file? path = none)
    (hbelow : memory.Holds (path.components ++ next :: rest)) :
    ∃ newest, memory.stat path = .ok ⟨0, newest, true⟩ := by
  obtain ⟨file, hfile, hpath⟩ := hbelow
  have hmem : file.modified ∈ (memory.files.filter (·.path.isUnder path)).map (·.modified) :=
    List.mem_map_of_mem (List.mem_filter.mpr ⟨hfile, isUnder_iff.mpr ⟨_, hpath⟩⟩)
  obtain ⟨newest, hnewest⟩ := Option.isSome_iff_exists.mp
    (List.isSome_max?_of_mem hmem)
  refine ⟨newest, ?_⟩
  rw [stat, checkAccess_eq_ok_iff.mpr hallowed]
  simp only [bind, Except.bind, hnone, hnewest]
  rfl

/-! ### All that is below a directory -/

/-- The paths that listing a directory and the directories below it gives. -/
def filesBelow (memory : MemoryTree) (directory : Path) : List Path :=
  match _hlist : memory.list directory with
  | .error _ => []
  | .ok entries => entries.attach.flatMap fun ⟨entry, _⟩ =>
      if _hdir : entry.isDir = true then filesBelow memory entry.path else [entry.path]
termination_by memory.weight directory
decreasing_by
  rename_i hentry
  obtain ⟨c, hleads⟩ := exists_leadsTo _hlist hentry
  exact weight_lt hleads _hdir

theorem filesBelow_of_error {failure : AccessFailure} (h : memory.list directory = .error failure) :
    memory.filesBelow directory = [] := by
  rw [filesBelow]
  split
  · rfl
  · simp_all

theorem filesBelow_of_ok {entries : List DirEntry} (h : memory.list directory = .ok entries) :
    memory.filesBelow directory = entries.flatMap fun entry =>
      if entry.isDir then memory.filesBelow entry.path else [entry.path] := by
  rw [filesBelow]
  split
  next failure herror =>
    rw [h] at herror
    cases herror
  next entries' hok =>
    obtain rfl : entries = entries' := Except.ok.inj (h.symm.trans hok)
    simp only [dite_eq_ite, List.flatMap_subtype, List.unattach_attach]

theorem exists_of_mem_filesBelow {p : Path} (h : p ∈ memory.filesBelow directory) :
    ∃ c rest, p.components = directory.components ++ c :: rest
      ∧ memory.IsLeaf (directory.components ++ c :: rest) := by
  induction hweight : memory.weight directory using Nat.strong_induction_on
    generalizing directory with
  | _ weight ih =>
    cases hlist : memory.list directory with
    | error failure =>
      rw [filesBelow_of_error hlist] at h
      exact absurd h List.not_mem_nil
    | ok entries =>
      rw [filesBelow_of_ok hlist] at h
      obtain ⟨entry, hentry, hp⟩ := List.mem_flatMap.mp h
      obtain ⟨c, hleads⟩ := exists_leadsTo hlist hentry
      cases hdir : entry.isDir with
      | true =>
        rw [if_pos hdir] at hp
        obtain ⟨next, rest, hpath, hleaf⟩ := ih _ (hweight ▸ weight_lt hleads hdir) hp rfl
        rw [hleads.components, List.append_assoc, List.singleton_append] at hpath hleaf
        exact ⟨c, next :: rest, hpath, hleaf⟩
      | false =>
        rw [if_neg (by rw [hdir]; exact Bool.false_ne_true), List.mem_singleton] at hp
        have hnone : ∀ next rest, ¬memory.Holds (directory.components ++ c :: next :: rest) := by
          intro next rest hholds
          have htrue := hleads.isDir_iff.mpr ⟨next, rest, hholds⟩
          exact absurd (hdir.symm.trans htrue) Bool.false_ne_true
        -- The file behind the entry is the entry itself, since none lies below that.
        obtain ⟨rest, hholds⟩ := hleads.holds
        cases rest with
        | nil =>
          refine ⟨c, [], hp ▸ hleads.components, hholds, fun next rest hbelow => ?_⟩
          rw [List.append_assoc, List.singleton_append] at hbelow
          exact hnone next rest hbelow
        | cons next rest => exact absurd hholds (hnone next rest)

theorem exists_mem_filesBelow (hdenied : memory.denied = []) {c : Component} {rest : List Component}
    (h : memory.IsLeaf (directory.components ++ c :: rest)) :
    ∃ p ∈ memory.filesBelow directory, p.components = directory.components ++ c :: rest := by
  induction rest generalizing directory c with
  | nil =>
    obtain ⟨entries, hlist⟩ := list_of_holds (not_denies hdenied _) h.1
    obtain ⟨entry, hentry, hleads⟩ := exists_mem_leadsTo hlist h.1
    have hdir : entry.isDir ≠ true := by
      rw [Ne, hleads.isDir_iff]
      rintro ⟨next, rest, hbelow⟩
      refine h.2 next rest ?_
      rwa [List.append_assoc, List.singleton_append]
    rw [filesBelow_of_ok hlist]
    refine ⟨entry.path, List.mem_flatMap.mpr ⟨entry, hentry, ?_⟩, hleads.components⟩
    rw [if_neg hdir]
    exact List.mem_singleton_self _
  | cons next rest ih =>
    obtain ⟨entries, hlist⟩ := list_of_holds (not_denies hdenied _) h.1
    obtain ⟨entry, hentry, hleads⟩ := exists_mem_leadsTo hlist h.1
    have hdir : entry.isDir = true := hleads.isDir_iff.mpr ⟨next, rest, h.1⟩
    rw [List.append_cons, ← hleads.components] at h ⊢
    obtain ⟨p, hp, hpath⟩ := ih h
    rw [filesBelow_of_ok hlist]
    refine ⟨p, List.mem_flatMap.mpr ⟨entry, hentry, ?_⟩, hpath⟩
    rwa [if_pos hdir]

theorem pairwise_filesBelow (memory : MemoryTree) (directory : Path) :
    (memory.filesBelow directory).Pairwise fun p q => p.components ≠ q.components := by
  induction hweight : memory.weight directory using Nat.strong_induction_on
    generalizing directory with
  | _ weight ih =>
    cases hlist : memory.list directory with
    | error failure =>
      rw [filesBelow_of_error hlist]
      exact List.Pairwise.nil
    | ok entries =>
      rw [filesBelow_of_ok hlist]
      have hlead : ∀ entry ∈ entries,
          ∀ p ∈ (if entry.isDir then memory.filesBelow entry.path else [entry.path]),
            entry.path.components <+: p.components := by
        intro entry hentry p hp
        split at hp
        · obtain ⟨c, rest, hpath, -⟩ := exists_of_mem_filesBelow hp
          exact ⟨c :: rest, hpath.symm⟩
        · obtain rfl := List.mem_singleton.mp hp
          exact List.prefix_rfl
      refine List.pairwise_flatMap.mpr ⟨fun entry hentry => ?_, ?_⟩
      · split
        next hdir =>
          obtain ⟨c, hleads⟩ := exists_leadsTo hlist hentry
          exact ih _ (hweight ▸ weight_lt hleads hdir) entry.path rfl
        next => exact List.pairwise_singleton _ _
      · refine List.Pairwise.imp_of_mem ?_ (pairwise_list hlist)
        intro entry entry' hentry hentry' hlt p hp q hq heq
        obtain ⟨c, hleads⟩ := exists_leadsTo hlist hentry
        obtain ⟨c', hleads'⟩ := exists_leadsTo hlist hentry'
        have hp := hlead entry hentry p hp
        have hq := hlead entry' hentry' q hq
        -- Two entries of a directory are equally long, so one that leads to both is both.
        rw [heq] at hp
        have hlength : entry.path.components.length = entry'.path.components.length := by
          rw [hleads.components, hleads'.components, List.length_append, List.length_append]
          rfl
        exact components_ne_of_lt hlt
          ((List.prefix_of_prefix_length_le hp hq hlength.le).eq_of_length hlength)

/-! ### The views -/

/-- What the views say of a tree, whatever is stored. -/
structure LeafViews (memory : MemoryTree) : Prop where
  known : ∀ file ∈ memory.files, ∀ path : Path, path.components = file.path.components →
    memory.stat path = .ok ⟨file.content.size, file.modified, false⟩
      ∧ memory.read path = .ok file.content
  listed : ∀ file ∈ memory.files, file.path.components ≠ [] → file.path.components ≠ [.root] →
    ∃ directory entries entry, file.path.parent? = some directory
      ∧ memory.list directory = .ok entries ∧ entry ∈ entries
      ∧ entry.path.components = file.path.components
      ∧ (entry.isDir = false ↔ memory.IsLeaf file.path.components)
  inside : ∀ directory entries, memory.list directory = .ok entries → ∀ entry ∈ entries,
    entry.isDir = true →
      (∃ inner, memory.list entry.path = .ok inner)
        ∧ ∃ known, memory.stat entry.path = .ok known
          ∧ (known.isDir = true ↔ ¬memory.Holds entry.path.components)
  once : ∀ directory, ((memory.filesBelow directory).map (·.components)).Nodup
  below : ∀ directory cs, (∃ p ∈ memory.filesBelow directory, p.components = cs)
    ↔ memory.IsLeaf cs ∧ ∃ c rest, cs = directory.components ++ c :: rest

/-- The views of a tree agree. -/
structure ViewsAgree (memory : MemoryTree) : Prop where
  /-- A file other than the root and the empty path is listed as one by the directory above it,
  and is there. -/
  listed : ∀ file ∈ memory.files, file.path.components ≠ [] → file.path.components ≠ [.root] →
    ∃ directory entries entry, file.path.parent? = some directory
      ∧ memory.list directory = .ok entries ∧ entry ∈ entries
      ∧ entry.path.components = file.path.components ∧ entry.isDir = false
      ∧ memory.stat entry.path = .ok ⟨file.content.size, file.modified, false⟩
      ∧ memory.read entry.path = .ok file.content
  /-- What is listed as a directory is one, and can be listed. -/
  inside : ∀ directory entries, memory.list directory = .ok entries → ∀ entry ∈ entries,
    entry.isDir = true →
      (∃ known, memory.stat entry.path = .ok known ∧ known.isDir = true)
        ∧ ∃ inner, memory.list entry.path = .ok inner
  /-- To list all that is below a directory gives each file below it once. -/
  once : ∀ directory, ((memory.filesBelow directory).map (·.components)).Nodup
  below : ∀ directory cs, (∃ p ∈ memory.filesBelow directory, p.components = cs)
    ↔ memory.Holds cs ∧ ∃ c rest, cs = directory.components ++ c :: rest

theorem leafViews (hdenied : memory.denied = []) : memory.LeafViews where
  known file hfile path hpath := by
    have hfound : memory.file? path = some file := file?_eq_some_iff.mpr ⟨hfile, hpath.symm⟩
    exact ⟨stat_of_file (not_denies hdenied _) hfound, read_of_file (not_denies hdenied _) hfound⟩
  listed file hfile hnil hroot := by
    obtain ⟨directory, hparent⟩ := exists_parent? hnil hroot
    obtain ⟨c, hc⟩ := components_parent? hparent
    have hholds : memory.Holds (directory.components ++ [c]) := ⟨file, hfile, hc⟩
    obtain ⟨entries, hlist⟩ := list_of_holds (not_denies hdenied _) hholds
    obtain ⟨entry, hentry, hleads⟩ := exists_mem_leadsTo hlist hholds
    refine ⟨directory, entries, entry, hparent, hlist, hentry, hleads.components.trans hc.symm, ?_⟩
    rw [hc, ← Bool.not_eq_true, hleads.isDir_iff, IsLeaf, and_iff_right hholds]
    simp only [List.append_assoc, List.singleton_append, not_exists]
  inside directory entries hlist entry hentry hdir := by
    obtain ⟨c, hleads⟩ := exists_leadsTo hlist hentry
    obtain ⟨next, rest, hbelow⟩ := hleads.isDir_iff.mp hdir
    rw [List.append_cons, ← hleads.components] at hbelow
    refine ⟨list_of_holds (not_denies hdenied _) hbelow, ?_⟩
    cases hfile : memory.file? entry.path with
    | some file =>
      refine ⟨_, stat_of_file (not_denies hdenied _) hfile, ?_⟩
      have hholds := isSome_file?_iff.mp (Option.isSome_of_eq_some hfile)
      simp [hholds]
    | none =>
      obtain ⟨newest, hstat⟩ := stat_of_below (not_denies hdenied _) hfile hbelow
      have hfree : ¬memory.Holds entry.path.components := by
        rw [← isSome_file?_iff, hfile]
        exact Bool.false_ne_true
      exact ⟨_, hstat, by simp [hfree]⟩
  once directory := List.pairwise_map.mpr (pairwise_filesBelow memory directory)
  below directory cs := by
    constructor
    · rintro ⟨p, hp, rfl⟩
      obtain ⟨c, rest, hpath, hleaf⟩ := exists_of_mem_filesBelow hp
      exact ⟨hpath ▸ hleaf, c, rest, hpath⟩
    · rintro ⟨hleaf, c, rest, rfl⟩
      exact exists_mem_filesBelow hdenied hleaf

/-- The empty path is below no directory, and nothing is said of a file there. -/
theorem viewsAgree_iff (h : memory.LeafViews) :
    memory.ViewsAgree ↔ ∀ cs, memory.Holds cs → cs ≠ [] → memory.IsLeaf cs := by
  constructor
  · intro hagree cs hholds hne
    obtain ⟨c, rest, rfl⟩ := List.exists_cons_of_ne_nil hne
    -- Every other path is below the empty one.
    have hbelow := (hagree.below ⟨""⟩ (c :: rest)).mpr ⟨hholds, c, rest, rfl⟩
    exact ((h.below ⟨""⟩ (c :: rest)).mp hbelow).1
  · intro hleaf
    refine ⟨fun file hfile hnil hroot => ?_, fun directory entries hlist entry hentry hdir => ?_,
      h.once, fun directory cs => ?_⟩
    · obtain ⟨directory, entries, entry, hparent, hlist, hentry, hpath, hdir⟩ :=
        h.listed file hfile hnil hroot
      obtain ⟨hstat, hread⟩ := h.known file hfile entry.path hpath
      have hfileDir := hdir.mpr (hleaf _ ⟨file, hfile, rfl⟩ hnil)
      exact ⟨directory, entries, entry, hparent, hlist, hentry, hpath, hfileDir, hstat, hread⟩
    · obtain ⟨hinner, known, hknown, hisDir⟩ := h.inside directory entries hlist entry hentry hdir
      obtain ⟨c, hleads⟩ := exists_leadsTo hlist hentry
      refine ⟨⟨known, hknown, hisDir.mpr fun hholds => ?_⟩, hinner⟩
      obtain ⟨next, rest, hbelow⟩ := hleads.isDir_iff.mp hdir
      rw [List.append_cons, ← hleads.components] at hbelow
      have hnil : entry.path.components ≠ [] := by
        rw [hleads.components]
        simp
      exact (hleaf _ hholds hnil).2 next rest hbelow
    · rw [h.below]
      refine and_congr_left fun ⟨c, rest, hcs⟩ => ⟨And.left, fun hholds => hleaf cs hholds ?_⟩
      rw [hcs]
      simp

/-- After any changes the views say so much, and agree if and only if no file is stored below
another one. -/
theorem viewsAgree_after_iff (changes : List Change) :
    (after changes).LeafViews
      ∧ ((after changes).ViewsAgree
        ↔ ∀ cs, (after changes).Holds cs → cs ≠ [] → (after changes).IsLeaf cs) :=
  have hviews := leafViews (denied_after changes)
  ⟨hviews, viewsAgree_iff hviews⟩

/-- A file below a file makes the latter a directory for those that list it. -/
theorem not_forall_viewsAgree_after : ¬∀ changes, (after changes).ViewsAgree := by
  intro h
  let changes : List Change :=
    [.add ⟨"/ws/a.ts"⟩ "x".toUTF8, .add ⟨"/ws/a.ts/b.ts"⟩ "y".toUTF8]
  have hfile : ∃ file ∈ (after changes).files,
      file.path.components = [.root, .normal "ws", .normal "a.ts"] := by decide
  have hbelow : ∃ file ∈ (after changes).files,
      file.path.components = [.root, .normal "ws", .normal "a.ts"] ++ [.normal "b.ts"] := by
    decide
  have hleaf := (viewsAgree_iff (leafViews (denied_after changes))).mp (h changes) _ hfile
    (List.cons_ne_nil _ _)
  exact hleaf.2 _ [] hbelow

end SourceRetrieval.MemoryTree
