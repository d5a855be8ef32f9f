/-
Walking a workspace: which of its files a search looks at.

* `Walker.filter?` decides on one file, apart from ignore files;
* `Walker.walk` lists the files of the workspace;
* `Walker.admit?` decides on one file just as the walk does.

Design notes: a walk works off a stack of directories, the entries of each in
the order of their paths and its files before its subdirectories.  Directories
behind links are not entered, so no directory is entered twice and the bound of
the tree is fuel enough.
-/
import SourceRetrieval.FileTree.Basic
import SourceRetrieval.Glob.PatternSet
import SourceRetrieval.Language
import SourceRetrieval.Text.Utf8

namespace SourceRetrieval

/-- A file that a search looks at. -/
structure Candidate where
  path : Path
  /-- As seen from the root of the workspace. -/
  relativePath : String
  language : Option Language
  size : Nat
  modified : Nat
  deriving DecidableEq, Inhabited, Repr

/-- What a walk goes by. -/
structure Walker where
  root : Path
  /-- In bytes. -/
  maxFileSize : Nat
  /-- What globs and ignore files are read with. -/
  globs : GlobLibrary := .standard
  /-- Without patterns every file is included. -/
  includes : PatternSet := PatternSet.ofTexts globs []
  excludes : PatternSet := PatternSet.ofTexts globs []
  /-- Names or extensions of languages; without any all languages are meant. -/
  languages : List String := []
  includeTests : Bool := false
  includeDocs : Bool := false
  respectIgnoreFiles : Bool := true
  deriving Inhabited

namespace Walker

/-- Whether the language of a file is one that is meant. -/
def wantsLanguage (walker : Walker) (language : Option Language) : Bool :=
  walker.languages.isEmpty
    || language.any fun l => walker.languages.any l.matchesFilter

/-- Whether the patterns and the language of a file speak for it. -/
def wants (walker : Walker) (relativePath : String) (language : Option Language) : Bool :=
  !walker.excludes.isMatch relativePath
    && (walker.includes.isEmpty || walker.includes.isMatch relativePath)
    && walker.wantsLanguage language
    && (walker.includeTests || !isTestPath walker.globs relativePath)
    && (walker.includeDocs || !language.any Language.isDocumentation)

/-- The candidate that a path makes, unless something other than ignore files speaks
against it. -/
def filter? (walker : Walker) (tree : FileTree) (path : Path) : Option Candidate := do
  let relativePath := walker.root.relativeTo path
  let language := Language.ofPath? path
  guard (walker.wants relativePath language)
  let stat ← (tree.stat path).toOption
  guard (!stat.isDir && stat.size ≤ walker.maxFileSize)
  return ⟨path, relativePath, language, stat.size, stat.modified⟩

/-- The ignore files of a directory, those that go before others last. -/
def ignoreFiles (walker : Walker) (directory : Path) : List Path :=
  (if directory.same walker.root then [directory.joinAll [".git", "info", "exclude"]] else [])
    ++ [directory.join ".gitignore", directory.join ".ignore"]

/-- Put the rules of the ignore files of a directory before those of the directories
above it. -/
def enter (walker : Walker) (tree : FileTree) (directory : Path) (chain : IgnoreChain) :
    IgnoreChain :=
  if !walker.respectIgnoreFiles then chain
  else
    let texts := (walker.ignoreFiles directory).filterMap fun file =>
      (tree.read file).toOption.map Text.decodeLossy
    if texts.isEmpty then chain
    else
      let lines := texts.flatMap fun text => Text.lines text.toList
      (walker.globs.ignoreMatcher? directory lines).toList ++ chain

/-- A directory that a walk has still to enter, with the rules of those above it. -/
abbrev Pending := Path × IgnoreChain

/-- Sort entries by path. -/
def sortEntries (entries : List DirEntry) : List DirEntry :=
  entries.mergeSort fun a b => a.path.compare b.path != .gt

/-- The entries of a directory that a walk goes on with: files, and directories to enter. -/
def expand (walker : Walker) (tree : FileTree) (directory : Path) (above : IgnoreChain) :
    List Path × List Pending :=
  match tree.list directory with
  | .error _ => ([], [])
  | .ok entries =>
    let chain := walker.enter tree directory above
    let kept := (sortEntries entries).filter fun entry => !chain.isIgnored entry.path entry.isDir
    let files := kept.filter fun entry => !entry.isDir
    -- A directory behind a link is neither entered nor taken for a file.
    let directories := kept.filter fun entry =>
      entry.isDir && !entry.isSymlink
        && !walker.excludes.isMatch (walker.root.relativeTo entry.path)
    (files.map (·.path), directories.map fun entry => (entry.path, chain))

/-- The candidates in and below the directories of a stack, the topmost first. -/
def walkFrom (walker : Walker) (tree : FileTree) : Nat → List Pending → List Candidate
  | 0, _ => []
  | _, [] => []
  | fuel + 1, (directory, above) :: rest =>
    let (files, directories) := walker.expand tree directory above
    -- What is below a directory comes before the directories that were found with it.
    files.filterMap (walker.filter? tree) ++ walkFrom walker tree fuel (directories ++ rest)

/-- The candidates of the workspace, in the order of the walk. -/
def walk (walker : Walker) (tree : FileTree) : List Candidate :=
  walker.walkFrom tree tree.directoryBound [(walker.root, [])]

/-- Whether the ignore files on the way to a path from the directory `here` want it ignored. -/
def isIgnoredFrom (walker : Walker) (tree : FileTree) (here : Path) (above : IgnoreChain) :
    List Component → Bool
  | [] => false
  | step :: rest =>
    let chain := walker.enter tree here above
    let there := here.join step.text
    -- Only what the last step leads to may be a file.
    chain.isIgnored there (!rest.isEmpty) || isIgnoredFrom walker tree there chain rest

/-- Whether ignore files want a path ignored; those of a path outside the workspace do not
matter. -/
def isIgnored (walker : Walker) (tree : FileTree) (path : Path) : Bool :=
  walker.respectIgnoreFiles
    && (Path.under? walker.root path).any (walker.isIgnoredFrom tree walker.root [])

/-- The candidate that a path makes, if the walk would list it. -/
def admit? (walker : Walker) (tree : FileTree) (path : Path) : Option Candidate :=
  if walker.isIgnored tree path then none else walker.filter? tree path

end Walker

end SourceRetrieval
