/-
File trees, as far as a search needs them.

* `FileTree` answers three questions about paths: what a file holds, what kind
  of thing a path is, and what a directory lists.

Design notes: a tree is a value, so two answers of one tree always agree, and a
change of files is another tree.
-/
import SourceRetrieval.Failure
import SourceRetrieval.Path

namespace SourceRetrieval

/-- What is known about a path without reading it. -/
structure FileStat where
  /-- In bytes. -/
  size : Nat
  /-- The time of the last change. -/
  modified : Nat
  isDir : Bool
  deriving DecidableEq, Inhabited, Repr

/-- An entry of a directory. -/
structure DirEntry where
  path : Path
  /-- Whether it leads to a directory. -/
  isDir : Bool
  isSymlink : Bool
  deriving DecidableEq, Inhabited, Repr

/-- A file tree. -/
structure FileTree where
  read : Path → Except AccessFailure ByteArray
  stat : Path → Except AccessFailure FileStat
  list : Path → Except AccessFailure (List DirEntry)
  /-- At least the number of directories. -/
  directoryBound : Nat

namespace FileTree

/-- Whether a path leads to something. -/
def exists? (tree : FileTree) (path : Path) : Bool := (tree.stat path).toOption.isSome

/-- Whether a path leads to a file. -/
def isFile (tree : FileTree) (path : Path) : Bool := (tree.stat path).toOption.any (!·.isDir)

end FileTree

/-- The name of an entry. -/
def DirEntry.name (entry : DirEntry) : String := entry.path.fileName?.getD ""

end SourceRetrieval
