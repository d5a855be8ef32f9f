/-
Import specifiers, resolved to files of the workspace.

* `Resolver.resolve` lists the files that a specifier names, as written in a
  file of some language;
* `script`, `python`, `rust`, `go` and `dotted` are the ways of the languages.

Design notes: a resolver proposes paths and keeps those at which there is a
file below the root, all in their normal form, so nothing outside of the
workspace is ever named.
-/
import SourceRetrieval.FileTree.Basic
import SourceRetrieval.Language
import SourceRetrieval.Text.Find

namespace SourceRetrieval

open Text

/-- Resolves import specifiers in a workspace. -/
structure Resolver where
  tree : FileTree
  root : Path

namespace Resolver

/-- The extensions of scripts, in the order in which they are tried. -/
def scriptExtensions : List String :=
  ["ts", "tsx", "d.ts", "js", "jsx", "mjs", "cjs", "mts", "cts"]

/-- Where the sources of languages with dotted names are kept. -/
def sourceRoots : List String := ["", "src", "src/main/java", "src/main/kotlin", "src/main/scala"]

/-- The most files that a package stands for. -/
def maxPackageFiles : Nat := 20

/-- The file at a path, if it is in the workspace. -/
def file? (resolver : Resolver) (path : Path) : Option Path :=
  let path := path.normalize
  if path.isUnder resolver.root && resolver.tree.isFile path then some path else none

/-- The first of some paths at which there is a file. -/
def first? (resolver : Resolver) (paths : List Path) : Option Path :=
  paths.findSome? resolver.file?

/-- The file at a path, possibly with an extension added, or the index file in it. -/
def probe? (resolver : Resolver) (extensions : List String) (index : String) (base : Path) :
    Option Path :=
  resolver.first? (base :: extensions.map base.withSuffix
    ++ extensions.map fun extension => base.join (index ++ "." ++ extension))

/-- The files of a package: those in a directory that have one of the extensions and do not
end like a test. -/
def packageFiles (resolver : Resolver) (extension : String) (testEnd : Option String)
    (directory : Path) : List Path :=
  let directory := directory.normalize
  if !directory.isUnder resolver.root then []
  else match resolver.tree.list directory with
    | .error _ => []
    | .ok entries =>
      let endsWith := fun (tail : String) (entry : DirEntry) =>
        tail.toList.isSuffixOf entry.name.toList
      let belongs := fun (entry : DirEntry) =>
        !entry.isDir && endsWith ("." ++ extension) entry && !testEnd.any (endsWith · entry)
      let paths := (entries.filter belongs).map (·.path)
      (paths.mergeSort fun a b => a.compare b != .gt).take maxPackageFiles

/-- The text of some characters. -/
def textOf (cs : List Char) : String := String.ofList cs

/-- The text after a leading word. -/
def after? (lead : String) (spec : List Char) : Option (List Char) := dropLead? lead.toList spec

/-- Whether a specifier is relative to the file it is written in. -/
def isRelative (spec : List Char) : Bool :=
  (after? "./" spec).isSome || (after? "../" spec).isSome || spec == ['.'] || spec == ['.', '.']

/-- What a specifier of a script names. -/
def script (resolver : Resolver) (directory : Path) (spec : List Char) : List Path :=
  let root := resolver.root
  let source := root.join "src"
  let bases :=
    if isRelative spec then [directory.join (textOf spec)]
    else match (after? "@/" spec).or (after? "~/" spec) with
      | some rest => [source.join (textOf rest), root.join (textOf rest)]
      | none =>
        match after? "/" spec with
        | some rest => [root.join (textOf rest)]
        | none => [root.join (textOf spec), source.join (textOf spec)]
  (bases.findSome? (resolver.probe? scriptExtensions "index")).toList

/-- Climb some directories up. -/
def climb : Nat → Path → Path
  | 0, path => path
  | n + 1, path => climb n path.parentOrSelf

/-- The non-empty pieces between dots. -/
def dottedParts (cs : List Char) : List String :=
  ((splitBy (· == '.') cs).filter (!·.isEmpty)).map textOf

/-- What a specifier of Python names. -/
def python (resolver : Resolver) (directory : Path) (spec : List Char) : List Path :=
  let names := spec.dropWhile (· == '.')
  let dots := spec.length - names.length
  let parts := dottedParts names
  let bases :=
    if dots = 0 then [directory, resolver.root, resolver.root.join "src"]
    -- The first dot stands for the directory of the importer, each further one for one above.
    else [climb (dots - 1) directory]
  let found := bases.findSome? fun base =>
    if parts.isEmpty then resolver.file? (base.join "__init__.py")
    else resolver.probe? ["py", "pyi"] "__init__" (base.joinAll parts)
  found.toList

/-- The directory that holds the modules inside a module of Rust. -/
def moduleDirectory (importer : Path) : Path :=
  let directory := importer.parent?.getD ⟨""⟩
  match importer.fileName? with
  | some "mod.rs" | some "lib.rs" | some "main.rs" => directory
  | _ =>
    match importer.stem? with
    | some stem => directory.join stem
    | none => directory

/-- The directory of the crate that a file of Rust belongs to. -/
def crateDirectory (resolver : Resolver) (importer : Path) : Path :=
  let above := importer.ancestors.takeWhile (·.isUnder resolver.root)
  let isCrate := fun (directory : Path) =>
    resolver.tree.isFile (directory.join "lib.rs") || resolver.tree.isFile (directory.join "main.rs")
  (above.find? isCrate).getD (resolver.root.join "src")

/-- The non-empty pieces between colons. -/
def colonParts (cs : List Char) : List String :=
  splitColons [] cs
where
  /-- Add a finished piece, which holds its last character first. -/
  finish (piece : List Char) (rest : List String) : List String :=
    if piece.isEmpty then rest else textOf piece.reverse :: rest
  /-- The pieces between double colons; `piece` is the open one, last character first. -/
  splitColons (piece : List Char) : List Char → List String
    | [] => finish piece []
    | ':' :: ':' :: cs => finish piece (splitColons [] cs)
    | c :: cs => splitColons (c :: piece) cs

/-- The file of a module of Rust inside a directory; of a path that goes on below modules the
longest beginning that has a file counts. -/
def deepest? (resolver : Resolver) (base : Path) (segments : List String) : Option Path :=
  let lengths := (List.range segments.length).reverse.map (· + 1)
  lengths.findSome? fun length =>
    let target := base.joinAll (segments.take length)
    resolver.first? [target.withSuffix "rs", target.join "mod.rs"]

/-- What a path of Rust names. -/
def rustPath (resolver : Resolver) (importer : Path) (segments : List String) : List Path :=
  let inside := moduleDirectory importer
  let start := match segments.head? with
    | some "crate" => some (resolver.crateDirectory importer)
    | some "self" => some inside
    | some "super" => some (inside.parent?.getD ⟨""⟩)
    | _ => none
  match start with
  | none => []
  | some base =>
    -- Behind the first segment each `super` leads up once more.
    let rest := segments.tail
    let names := rest.dropWhile (· == "super")
    (resolver.deepest? (climb (rest.length - names.length) base) names).toList

/-- What a specifier of Rust names. -/
def rust (resolver : Resolver) (importer : Path) (spec : List Char) : List Path :=
  match after? "mod " spec with
  | some rest =>
    let name := textOf (trim rest)
    let inside := moduleDirectory importer
    (resolver.first? [inside.join (name ++ ".rs"), (inside.join name).join "mod.rs"]).toList
  | none =>
    let path := ((words spec).headD []).takeWhile (· != '\x7b')
    resolver.rustPath importer (colonParts path)

/-- The tails of a list that are not empty, the whole list first. -/
def tails {α : Type} : List α → List (List α)
  | [] => []
  | x :: xs => (x :: xs) :: tails xs

/-- The beginnings of a list that are not empty, the whole list first. -/
def heads {α : Type} (list : List α) : List (List α) :=
  (List.range list.length).reverse.map fun n => list.take (n + 1)

/-- The first list that is not empty. -/
def firstNonEmpty {α β : Type} (f : α → List β) (list : List α) : List β :=
  (list.findSome? fun x => match f x with
    | [] => none
    | found => some found).getD []

/-- What a specifier of Go names. -/
def go (resolver : Resolver) (spec : List Char) : List Path :=
  let segments := ((splitBy (· == '/') spec).filter (!·.isEmpty)).map textOf
  firstNonEmpty
    (fun tail => resolver.packageFiles "go" (some "_test.go") (resolver.root.joinAll tail))
    (tails segments)

/-- Drop a wildcard at the end as often as there is one. -/
def dropWildcards : Nat → List Char → List Char
  | 0, spec => spec
  | fuel + 1, spec =>
    match dropTail? ['.', '*'] spec with
    | some before => dropWildcards fuel before
    | none => spec

/-- What a beginning of the last names of a dotted name stands for below a directory. -/
def dottedTarget (resolver : Resolver) (extension : String) (wildcard : Bool) (root : Path)
    (names taken : List String) : List Path :=
  let target := root.joinAll taken
  let found := if wildcard then none else resolver.file? (target.withSuffix extension)
  match found with
  | some path => [path]
  | none =>
    -- The name of a package has to be taken whole, unless a wildcard stands for its files.
    if wildcard || taken.length = names.length then resolver.packageFiles extension none target
    else []

/-- What a dotted name stands for, which may lack its first names on disk. -/
def dotted (resolver : Resolver) (extension : String) (spec : List Char) : List Path :=
  let spec := dropEndWhile (· == ';') spec
  let wildcard := ['.', '*'].isSuffixOf spec
  let names := dottedParts (dropWildcards spec.length spec)
  firstNonEmpty
    (fun root =>
      firstNonEmpty
        (fun tail =>
          firstNonEmpty (resolver.dottedTarget extension wildcard (resolver.root.join root) tail)
            (heads tail))
        (tails names))
    sourceRoots

/-- Of neighbouring paths that are the same keep the first. -/
def dropSame : List Path → List Path
  | first :: second :: rest =>
    if first.same second then dropSame (first :: rest) else first :: dropSame (second :: rest)
  | paths => paths
termination_by paths => paths.length

/-- What a specifier names in the way of a language. -/
def candidates (resolver : Resolver) (importer : Path) (spec : List Char)
    (language : Option Language) : List Path :=
  let directory := importer.parent?.getD resolver.root
  match language with
  | some .python => resolver.python directory spec
  | some .rust => resolver.rust importer spec
  | some .go => resolver.go spec
  | some .java => resolver.dotted "java" spec
  | some .kotlin => resolver.dotted "kt" spec
  | some .scala => resolver.dotted "scala" spec
  | some .cSharp => resolver.dotted "cs" spec
  | _ => resolver.script directory spec

/-- The files that a specifier names, as written in the file `importer`, which is none of
them. -/
def resolve (resolver : Resolver) (importer : Path) (specifier : String)
    (language : Option Language) : List Path :=
  let spec := trim specifier.toList
  if spec.isEmpty then []
  else
    let found := resolver.candidates importer spec language
    dropSame (found.filter (!·.same importer))

end Resolver

end SourceRetrieval
