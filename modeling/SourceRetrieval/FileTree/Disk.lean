/-
File trees as disks hold them: with directories of their own and with symbolic
links.

* `DiskNode` is a file, a directory with what it holds, or a link;
* `DiskTree.write`, `makeDirectory`, `link` and `remove` change a tree;
* `DiskTree.resolve?` follows a path to what it leads to;
* `DiskTree.tree` is the file tree that a search sees.

Design notes: nodes are found and changed by the names that lead to them from
the root.  A path is followed name by name, and a link puts the names of its
target in front of what is still to be followed.
-/
import SourceRetrieval.FileTree.Basic

namespace SourceRetrieval

/-- What a directory can hold. -/
inductive DiskNode where
  | file (content : ByteArray) (size modified : Nat)
  | directory (entries : List (String × DiskNode))
  | link (target : Path)
  deriving Inhabited

namespace DiskNode

/-- The entries of a directory. -/
abbrev Entries := List (String × DiskNode)

/-- The node that some names lead to from a node, links not followed. -/
def find? : List String → DiskNode → Option DiskNode
  | [], node => some node
  | name :: rest, directory entries => (entries.lookup name).bind (find? rest)
  | _ :: _, _ => none

/-- Put a node in the place of the one that a name has, or at the end. -/
def setEntry (name : String) (node : DiskNode) : Entries → Entries
  | [] => [(name, node)]
  | entry :: rest =>
    if entry.1 == name then (name, node) :: rest else entry :: setEntry name node rest

/-- Change what some names lead to from a node, making the directories on the way; a file
or a link on the way leaves all as it was. -/
def change (f : Option DiskNode → DiskNode) : List String → DiskNode → DiskNode
  | [], node => f (some node)
  | [name], directory entries => directory (setEntry name (f (entries.lookup name)) entries)
  | name :: rest, directory entries =>
    let inner := (entries.lookup name).getD (directory [])
    directory (setEntry name (change f rest inner) entries)
  | _ :: _, node => node

/-- Take away what some names lead to from a node. -/
def erase : List String → DiskNode → DiskNode
  | [name], directory entries => directory (entries.filter (·.1 != name))
  | name :: rest, directory entries =>
    match entries.lookup name with
    | some inner => directory (setEntry name (erase rest inner) entries)
    | none => directory entries
  | _, node => node

mutual

/-- The number of directories at and below a node. -/
def directoryCount : DiskNode → Nat
  | directory entries => entriesCount entries + 1
  | _ => 0

/-- The number of directories at and below some entries. -/
def entriesCount : Entries → Nat
  | [] => 0
  | entry :: rest => entryCount entry + entriesCount rest

/-- The number of directories at and below an entry. -/
def entryCount : String × DiskNode → Nat
  | (_, node) => directoryCount node

end

end DiskNode

/-- A tree of nodes. -/
structure DiskTree where
  /-- The root directory. -/
  top : DiskNode := .directory []
  deriving Inhabited

namespace DiskTree

/-- The node that some names lead to, links not followed. -/
def node? (disk : DiskTree) (names : List String) : Option DiskNode := disk.top.find? names

/-- Whether some names lead to a directory, links not followed. -/
def isDirectory (disk : DiskTree) (names : List String) : Bool :=
  match disk.node? names with
  | some (.directory _) => true
  | _ => false

/-- The names that following `rest` from the directory `here` leads to, at most `fuel`
steps away. -/
def follow? (disk : DiskTree) : Nat → (here : List String) → List Component → Option (List String)
  | _, here, [] => some here
  | 0, _, _ => none
  | fuel + 1, here, step :: rest =>
    match step with
    | .root => disk.follow? fuel [] rest
    | .current => if disk.isDirectory here then disk.follow? fuel here rest else none
    | .parent => if disk.isDirectory here then disk.follow? fuel here.dropLast rest else none
    | .normal name =>
      if disk.isDirectory here then
        let there := here ++ [name]
        match disk.node? there with
        | none => none
        | some (.link target) => disk.follow? fuel here (target.components ++ rest)
        | some _ => disk.follow? fuel there rest
      else none

/-- The names of what a path leads to.  A chain of links that is too long leads nowhere. -/
def resolve? (disk : DiskTree) (path : Path) : Option (List String) :=
  let steps := path.components
  let text := path.text.toList
  let names? := disk.follow? (40 * (steps.length + 1) + steps.length) [] steps
  names?.filter fun names => text.getLast? != some '/' || disk.isDirectory names

/-- The failure of a path that leads nowhere. -/
def missing : AccessFailure :=
  ⟨.notFound, "No such file or directory (os error 2)"⟩

/-- What a path leads to. -/
def target (disk : DiskTree) (path : Path) : Except AccessFailure (List String × DiskNode) :=
  match disk.resolve? path with
  | some names =>
    match disk.node? names with
    | some node => .ok (names, node)
    | none => .error missing
  | none => .error missing

/-- What a file holds. -/
def read (disk : DiskTree) (path : Path) : Except AccessFailure ByteArray := do
  match ← disk.target path with
  | (_, .file content _ _) => return content
  | _ => .error ⟨.other, "Is a directory (os error 21)"⟩

/-- What kind of thing a path leads to. -/
def stat (disk : DiskTree) (path : Path) : Except AccessFailure FileStat := do
  match ← disk.target path with
  | (_, .file _ size modified) => return ⟨size, modified, false⟩
  | _ => return ⟨0, 0, true⟩

/-- What a directory at `path` lists for an entry. -/
def listed (disk : DiskTree) (path : Path) (entry : String × DiskNode) : DirEntry :=
  let there := path.join entry.1
  match entry.2 with
  | .file _ _ _ => ⟨there, false, false⟩
  | .directory _ => ⟨there, true, false⟩
  | .link _ => ⟨there, (disk.stat there).toOption.any (·.isDir), true⟩

/-- What a directory lists. -/
def list (disk : DiskTree) (path : Path) : Except AccessFailure (List DirEntry) := do
  match ← disk.target path with
  | (_, .directory entries) => return entries.map (disk.listed path)
  | _ => .error ⟨.other, "Not a directory (os error 20)"⟩

/-- The names in a path. -/
def namesOf (path : Path) : List String :=
  path.normalize.components.filterMap fun step =>
    match step with
    | .normal name => some name
    | _ => none

/-- Put a node where some names lead. -/
def place (disk : DiskTree) (names : List String) (node : DiskNode) : DiskTree :=
  ⟨disk.top.change (fun _ => node) names⟩

/-- Make a directory and those above it; what is there already stays. -/
def makeDirectory (disk : DiskTree) (names : List String) : DiskTree :=
  ⟨disk.top.change (·.getD (.directory [])) names⟩

/-- The path of some names from the root. -/
def pathOf (names : List String) : Path := .ofComponents (.root :: names.map .normal)

/-- The names of a path, with links followed in the longest beginning that leads to
something, the last name left out. -/
def writeNames (disk : DiskTree) (path : Path) : List String :=
  let names := namesOf path
  let followed := fun n => (disk.resolve? (pathOf (names.take n))).map (· ++ names.drop n)
  ((List.range names.length).reverse.findSome? followed).getD names

/-- Write a file, and the directories above it. -/
def write (disk : DiskTree) (path : Path) (content : ByteArray) (modified : Nat) : DiskTree :=
  let names := (disk.resolve? path).getD (disk.writeNames path)
  disk.place names (.file content content.size modified)

/-- Make a link, and the directories above it. -/
def link (disk : DiskTree) (path target : Path) : DiskTree :=
  disk.place (disk.writeNames path) (.link target)

/-- Remove a file or a link; whether there was one. -/
def remove (disk : DiskTree) (path : Path) : DiskTree × Bool :=
  let names := disk.writeNames path
  match disk.node? names with
  | some (.file _ _ _) | some (.link _) => (⟨disk.top.erase names⟩, true)
  | _ => (disk, false)

/-- Let a file seem changed, a moment later than before; whether there is such a file. -/
def touch (disk : DiskTree) (path : Path) : DiskTree × Bool :=
  match disk.target path with
  | .ok (names, .file content size modified) =>
    (disk.place names (.file content size (modified + 1)), true)
  | _ => (disk, false)

/-- The file tree that a search sees. -/
def tree (disk : DiskTree) : FileTree :=
  { read := disk.read
    stat := disk.stat
    list := disk.list
    directoryBound := disk.top.directoryCount }

end DiskTree

end SourceRetrieval
