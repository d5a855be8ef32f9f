/-
Patterns and what lies below a directory.

A set without globs with a slash matches with a directory all that lies below it
(`PatternSet.isMatch_below`): a path has the components of its directory, and the text
of its directory in front.
-/
import SourceRetrieval.Glob.PatternSet
import SourceRetrieval.Proofs.Text.Split

namespace SourceRetrieval

open Text

theorem Text.occursIn_iff {needle cs : List Char} :
    occursIn needle cs = true ↔ needle <:+: cs := by
  induction cs with
  | nil => rw [occursIn, List.isEmpty_iff, List.infix_nil]
  | cons c cs ih =>
    rw [occursIn, Bool.or_eq_true, ih, List.isPrefixOf_iff_prefix, List.infix_cons_iff]

namespace CutPath

/-- The pieces of a text between slashes that are not empty. -/
def names (cs : List Char) : List (List Char) := (splitBy (· == '/') cs).filter (!·.isEmpty)

theorem names_append_cons (as bs : List Char) : names (as ++ '/' :: bs) = names as ++ names bs := by
  rw [names, splitBy_append_cons (by rfl), List.filter_append]
  rfl

theorem names_dropWhile (cs : List Char) : names (cs.dropWhile (· == '/')) = names cs := by
  induction cs with
  | nil => rfl
  | cons c cs ih =>
    by_cases hc : c = '/'
    · subst hc
      rw [List.dropWhile_cons_of_pos (by rfl), ih]
      exact (names_append_cons [] cs).symm
    · rw [List.dropWhile_cons_of_neg (by simpa using hc)]

theorem components_ofText (path : String) : (ofText path).components = names path.toList :=
  names_dropWhile path.toList

theorem componentBytes_ofText (path : String) :
    (ofText path).componentBytes
      = (names path.toList).map fun cs => (String.ofList cs).toUTF8.toList := by
  rw [← components_ofText]
  rfl

/-- The text of a directory stands in front of that of a path below it. -/
theorem text_ofText_prefix {directory path : String} {below : List Char}
    (h : path.toList = directory.toList ++ '/' :: below) :
    (ofText directory).text <+: (ofText path).text := by
  change directory.toList.dropWhile (· == '/') <+: path.toList.dropWhile (· == '/')
  rw [h, List.dropWhile_append]
  split
  next hempty =>
    rw [List.isEmpty_iff.mp hempty]
    exact List.nil_prefix
  next => exact List.prefix_append _ _

end CutPath

namespace PatternSet

variable {set : PatternSet} {path : String}

/-- What a set matches, by kind of pattern.  That it has no globs with a slash need not be asked
beforehand, since then these match nothing. -/
theorem isMatch_iff : set.isMatch path = true ↔
    (∃ text ∈ set.substrings, text <:+: (CutPath.ofText path).text)
      ∨ (∃ c ∈ CutPath.names path.toList, c ∈ set.names)
      ∨ (∃ bytes ∈ (CutPath.ofText path).componentBytes, set.components.isMatch bytes = true)
      ∨ ∃ tail ∈ (CutPath.ofText path).tailBytes, set.paths.isMatch tail = true := by
  have hpaths : (!set.paths.isEmpty && (CutPath.ofText path).tailBytes.any set.paths.isMatch) = true
      ↔ ∃ tail ∈ (CutPath.ofText path).tailBytes, set.paths.isMatch tail = true := by
    rw [Bool.and_eq_true, List.any_eq_true, and_iff_right_iff_imp]
    rintro ⟨tail, -, hmatch⟩
    rw [Bool.not_eq_true', ← Bool.not_eq_true]
    intro hempty
    rw [set.paths.isMatch_of_isEmpty hempty] at hmatch
    exact Bool.false_ne_true hmatch
  rw [isMatch, Bool.or_eq_true, Bool.or_eq_true, Bool.or_eq_true, hpaths, or_assoc, or_assoc,
    CutPath.components_ofText]
  simp only [List.any_eq_true, occursIn_iff, List.contains_iff_mem]

/-- Patterns none of which is a glob with a slash match with a directory what lies below it. -/
theorem isMatch_below (hset : set.paths.isEmpty = true) {directory : String} {below : List Char}
    (hpath : path.toList = directory.toList ++ '/' :: below)
    (h : set.isMatch directory = true) : set.isMatch path = true := by
  rw [isMatch_iff] at h ⊢
  -- A name and a glob without a slash look at single components, a text may occur anywhere.
  obtain ⟨text, htext, hoccurs⟩ | ⟨c, hc, hname⟩ | ⟨bytes, hbytes, hmatch⟩ | ⟨tail, -, hmatch⟩ := h
  · exact .inl ⟨text, htext, hoccurs.trans (CutPath.text_ofText_prefix hpath).isInfix⟩
  · rw [hpath, CutPath.names_append_cons]
    exact .inr (.inl ⟨c, List.mem_append_left _ hc, hname⟩)
  · rw [CutPath.componentBytes_ofText] at hbytes ⊢
    rw [hpath, CutPath.names_append_cons, List.map_append]
    exact .inr (.inr (.inl ⟨bytes, List.mem_append_left _ hbytes, hmatch⟩))
  · rw [set.paths.isMatch_of_isEmpty hset] at hmatch
    exact absurd hmatch Bool.false_ne_true

end PatternSet

end SourceRetrieval
