/-
Globs as a library gives them.

* `GlobSet` is some globs built into one, which matches what one of them does;
* `GlobLibrary` reads globs, builds sets of them, and builds the ignore files of a directory;
* `IgnoreChain.isIgnored` asks the ignore files of a directory and of those above it;
* `GlobLibrary.standard` is the library with the globs of `Glob.ofText?` and the ignore files
  of `IgnoreRules.matcher?`.

Design notes: a text that is a glob may still not build, and then no set builds that it is in.
When that is so is for the library to say: a set may grow too large, or nest too deep.  The
standard one gives up on globs that nest too deep alone.  Ignore files of a directory go before
those of the directories above it.
-/
import SourceRetrieval.Glob.Ignore

namespace SourceRetrieval

/-- Some globs that are matched together. -/
structure GlobSet where
  isEmpty : Bool
  isMatch : List UInt8 → Bool
  isMatch_of_isEmpty : isEmpty = true → ∀ text, isMatch text = false

namespace GlobSet

/-- The set of no globs. -/
def empty : GlobSet := ⟨true, fun _ => false, fun _ _ => rfl⟩

instance : Inhabited GlobSet := ⟨empty⟩

/-- The set of some globs. -/
def ofGlobs (globs : List Glob) : GlobSet where
  isEmpty := globs.isEmpty
  isMatch text := globs.any (·.isMatch text)
  isMatch_of_isEmpty h text := by
    rw [List.isEmpty_iff.mp h]
    rfl

end GlobSet

/-- Whether the ignore files of a directory want a path ignored, if they say anything about
it; the flag tells whether the path is that of a directory. -/
abbrev IgnoreMatcher := Path → Bool → Option Bool

/-- The ignore files of a directory and of those above it, innermost first. -/
abbrev IgnoreChain := List IgnoreMatcher

/-- Whether a path is ignored: the innermost directory that says something decides. -/
def IgnoreChain.isIgnored (chain : IgnoreChain) (path : Path) (isDir : Bool) : Bool :=
  (chain.findSome? fun matcher => matcher path isDir).getD false

/-- What globs are read and matched with. -/
structure GlobLibrary where
  /-- Whether a text can be read as a glob. -/
  isGlob : String → Bool
  /-- Whether the glob that a text is read as matches a text. -/
  isMatch : String → List UInt8 → Bool
  /-- Build some globs into one set, unless that fails. -/
  build? : List String → Option GlobSet
  isMatch_of_build : ∀ {globs set}, build? globs = some set →
    ∀ text, set.isMatch text = globs.any (isMatch · text)
  /-- Build the lines of the ignore files of a directory, unless that fails or they say
  nothing. -/
  ignoreMatcher? : Path → List (List Char) → Option IgnoreMatcher

namespace GlobLibrary

/-- Build some globs into one set, which is empty if that fails. -/
def buildOrEmpty (library : GlobLibrary) (globs : List String) : GlobSet :=
  (library.build? globs).getD .empty

/-- How patterns for paths are read. -/
def style : Glob.Style := ⟨false, false⟩

/-- Build some globs, unless one nests too deep. -/
def buildShallow? (texts : List String) : Option GlobSet :=
  let globs := texts.filterMap (Glob.ofText? style)
  if globs.any Glob.isDeep then none else some (.ofGlobs globs)

theorem isMatch_of_buildShallow {texts : List String} {set : GlobSet}
    (h : buildShallow? texts = some set) (text : List UInt8) :
    set.isMatch text = texts.any fun t => (Glob.ofText? style t).any (·.isMatch text) := by
  obtain ⟨-, h⟩ := Option.ite_none_left_eq_some.mp h
  rw [← Option.some.inj h]
  change (texts.filterMap (Glob.ofText? style)).any (·.isMatch text) = _
  rw [List.any_filterMap]
  refine congrArg texts.any (funext fun t => ?_)
  cases Glob.ofText? style t <;> rfl

/-- The library that gives up on globs which nest too deep. -/
def standard : GlobLibrary where
  isGlob text := (Glob.ofText? style text).isSome
  isMatch text bytes := (Glob.ofText? style text).any (·.isMatch bytes)
  build? := buildShallow?
  isMatch_of_build := isMatch_of_buildShallow
  ignoreMatcher? := IgnoreRules.matcher?

theorem isGlob_standard (text : String) :
    standard.isGlob text = (Glob.ofText? style text).isSome :=
  rfl

/-- With a glob that nests too deep nothing is built. -/
theorem build?_standard_of_isDeep {texts : List String} {text : String} {glob : Glob}
    (htext : text ∈ texts) (hread : Glob.ofText? style text = some glob)
    (hdeep : glob.isDeep = true) : standard.build? texts = none :=
  if_pos (List.any_eq_true.mpr ⟨glob, List.mem_filterMap.mpr ⟨text, htext, hread⟩, hdeep⟩)

instance : Inhabited GlobLibrary := ⟨standard⟩

end GlobLibrary

end SourceRetrieval
