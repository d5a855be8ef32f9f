/-
Ignore files.

* `IgnoreRule.ofLine?` reads a line of an ignore file;
* `IgnoreRules.verdict?` is what the rules of a directory say of a path below it, and
  `IgnoreRules.matcher?` builds them from the lines of all its ignore files.

Design notes: of the rules of a directory the last one that matches decides.  The
globs of a directory are built together, so one that nests too deep takes all of them
with it, those of other files of the directory too.
-/
import SourceRetrieval.Glob.Reader
import SourceRetrieval.Glob.Depth
import SourceRetrieval.Path
import SourceRetrieval.Text.Lines
import SourceRetrieval.Text.Find

namespace SourceRetrieval

/-- A rule of an ignore file. -/
structure IgnoreRule where
  glob : Glob
  /-- The rule takes a path back that an earlier one ignores. -/
  isException : Bool
  /-- The rule is about directories alone. -/
  onlyDirs : Bool
  deriving Inhabited

/-- The rules of the ignore files of a directory. -/
structure IgnoreRules where
  directory : Path
  rules : List IgnoreRule
  deriving Inhabited

namespace IgnoreRule

open Text

/-- The glob of a rule: one without a slash holds in every directory below, and what ends
with two stars is about what is inside. -/
def globText (anchored : Bool) (cs : List Char) : List Char :=
  let everywhere := ['*', '*', '/']
  let cs :=
    if anchored || cs.contains '/' || cs == ['*', '*'] then cs else everywhere ++ cs
  if ['/', '*', '*'].isSuffixOf cs then cs ++ ['/', '*'] else cs

/-- The text of a line that counts: trailing blanks do not, unless the last is escaped. -/
def significant (line : List Char) : List Char :=
  if ['\\', ' '].isSuffixOf line then line else trimEnd line

/-- Read what follows a possible exclamation mark; `anchored` holds if the rule is about
the directory itself. -/
def read? (isException anchored : Bool) (cs : List Char) : Option IgnoreRule := do
  let (onlyDirs, cs) := match dropTail? ['/'] cs with
    | some before => (true, (dropTail? ['\\'] before).getD before)
    | none => (false, cs)
  let text := String.ofList (globText anchored cs)
  return ⟨← Glob.ofText? ⟨true, true⟩ text, isException, onlyDirs⟩

/-- The rule of a line; blank lines, comments and malformed globs have none. -/
def ofLine? (line : List Char) : Option IgnoreRule :=
  if line.head? == some '#' then none
  else match significant line with
    | [] => none
    | '\\' :: '!' :: cs => read? false false ('!' :: cs)
    | '\\' :: '#' :: cs => read? false false ('#' :: cs)
    | '!' :: '/' :: cs => read? true true cs
    | '!' :: cs => read? true false cs
    | '/' :: cs => read? false true cs
    | cs => read? false false cs

end IgnoreRule

namespace IgnoreRules

open Text

/-- A path as the rules of a directory see it. -/
def seenFrom (directory path : Path) : List Char :=
  let here := ['.', '/']
  let plain := fun (p : Path) => (dropLead? here p.text.toList).getD p.text.toList
  let dir := plain directory
  let text := plain path
  if dir == ['.'] || !text.contains '/' then text
  else
    match dropLead? dir text with
    | some below => (dropLead? ['/'] below).getD below
    | none => text

/-- Whether the rules want a path ignored, if they say anything about it. -/
def verdict? (set : IgnoreRules) (path : Path) (isDir : Bool) : Option Bool :=
  let bytes := (String.ofList (seenFrom set.directory path)).toUTF8.toList
  let matching := fun (rule : IgnoreRule) => (!rule.onlyDirs || isDir) && rule.glob.isMatch bytes
  (set.rules.reverse.find? matching).map fun rule => !rule.isException

/-- The rules that the lines of the ignore files of a directory make; there are none if a
glob nests too deep. -/
def matcher? (directory : Path) (lines : List (List Char)) :
    Option (Path → Bool → Option Bool) :=
  let rules := lines.filterMap IgnoreRule.ofLine?
  if rules.isEmpty || rules.any (·.glob.isDeep) then none
  else some (verdict? ⟨directory, rules⟩)

end IgnoreRules

end SourceRetrieval
