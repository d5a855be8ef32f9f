/-
Sets of patterns for paths.

A pattern is read in one of these ways:

* a plain name matches any component of a path;
* a glob without a slash matches any component too;
* a glob with a slash matches the path or what is left of it below some directory;
* a malformed glob matches wherever its text occurs.

The globs without a slash are built into one set, and so are those with a slash.  If one of
the two sets cannot be built, none of its globs matches anything.

`PatternSet.isMatch` asks all patterns, and `isTestPath` the set of patterns that mark tests.
-/
import SourceRetrieval.Glob.Library
import SourceRetrieval.Text.Blank
import SourceRetrieval.Text.Find

namespace SourceRetrieval

/-- How a pattern is read. -/
inductive PathPattern where
  | name (name : List Char)
  | component (glob : String)
  | path (glob : String)
  | anywhere (text : List Char)
  deriving DecidableEq, Inhabited

/-- Patterns for paths. -/
structure PatternSet where
  names : List (List Char)
  /-- The globs without a slash. -/
  components : GlobSet
  /-- The globs with a slash. -/
  paths : GlobSet
  /-- The malformed globs. -/
  substrings : List (List Char)
  /-- How many patterns were given, blank ones included. -/
  given : Nat
  deriving Inhabited

/-- A path cut into its components, with what globs look at. -/
structure CutPath where
  text : List Char
  components : List (List Char)
  /-- The bytes of each component. -/
  componentBytes : List (List UInt8)
  /-- The bytes of the path below each of its directories, the whole path first. -/
  tailBytes : List (List UInt8)

namespace PathPattern

/-- A character that makes a pattern a glob. -/
def isSpecial (c : Char) : Bool := c == '*' || c == '?' || c == '[' || c == '\x7b'

/-- Read a pattern; a blank one is none. -/
def ofText? (globs : GlobLibrary) (text : String) : Option PathPattern :=
  let cs := Text.trim text.toList
  if cs.isEmpty then none
  else if !cs.any isSpecial && !cs.contains '/' then some (name cs)
  else
    let glob := String.ofList cs
    if !globs.isGlob glob then some (anywhere cs)
    else if cs.contains '/' then some (path glob)
    else some (component glob)

/-- Read patterns. -/
def readAll (globs : GlobLibrary) (texts : List String) : List PathPattern :=
  texts.filterMap (ofText? globs)

def name? : PathPattern → Option (List Char)
  | .name wanted => some wanted
  | _ => none

def component? : PathPattern → Option String
  | .component glob => some glob
  | _ => none

def path? : PathPattern → Option String
  | .path glob => some glob
  | _ => none

def anywhere? : PathPattern → Option (List Char)
  | .anywhere text => some text
  | _ => none

end PathPattern

namespace CutPath

/-- The path below each of its directories, the whole path first. -/
def tails : List (List UInt8) → List (List UInt8)
  | [] => []
  | piece :: pieces => [Glob.slash].intercalate (piece :: pieces) :: tails pieces

/-- Cut a path at its slashes. -/
def ofText (path : String) : CutPath :=
  let text := path.toList.dropWhile (· == '/')
  let components := (Text.splitBy (· == '/') text).filter (!·.isEmpty)
  let bytes := components.map fun cs => (String.ofList cs).toUTF8.toList
  ⟨text, components, bytes, tails bytes⟩

end CutPath

namespace PatternSet

/-- Read patterns and build their globs. -/
def ofTexts (globs : GlobLibrary) (texts : List String) : PatternSet :=
  let patterns := PathPattern.readAll globs texts
  { names := patterns.filterMap (·.name?)
    components := globs.buildOrEmpty (patterns.filterMap (·.component?))
    paths := globs.buildOrEmpty (patterns.filterMap (·.path?))
    substrings := patterns.filterMap (·.anywhere?)
    given := texts.length }

/-- A set that no pattern was given for. -/
def isEmpty (set : PatternSet) : Bool := set.given = 0

/-- Whether one of the patterns matches a path, which is seen from the workspace. -/
def isMatch (set : PatternSet) (path : String) : Bool :=
  let cut := CutPath.ofText path
  set.substrings.any (Text.occursIn · cut.text)
    || cut.components.any set.names.contains
    || cut.componentBytes.any set.components.isMatch
    || (!set.paths.isEmpty && cut.tailBytes.any set.paths.isMatch)

end PatternSet

/-- The patterns that mark tests. -/
def testPatterns (globs : GlobLibrary) : PatternSet :=
  PatternSet.ofTexts globs ["*.test.*", "*.spec.*", "*_test.*", "test_*.py", "*Test.java",
    "*Tests.java", "*Test.cs", "*Tests.cs", "test", "tests", "__tests__", "spec"]

/-- Whether a path looks like that of a test. -/
def isTestPath (globs : GlobLibrary) (path : String) : Bool := (testPatterns globs).isMatch path

end SourceRetrieval
