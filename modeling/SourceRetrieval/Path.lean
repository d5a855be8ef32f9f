/-
File paths.

A path is a text; what it names is read off its components.

* `Path.components` cuts a path into components, repeated slashes and inner
  dots being nothing;
* `Path.normalize` resolves `.` and `..` without looking at any file tree;
* `Path.join`, `Path.parent?`, `Path.fileName?` and `Path.extension?` are the
  usual parts;
* `Path.resolveIn` reads a caller's path against a root, `Path.relativeTo`
  writes a path as seen from a root.

Design notes: two paths are the same (`Path.same`) if their components are;
the text is kept as written because it is shown to the reader.  The normal
form of a path is a list of components in which `..` can only lead.
-/
import SourceRetrieval.Text.Blank

namespace SourceRetrieval

/-- A file path as it is written. -/
structure Path where
  text : String
  deriving DecidableEq, Inhabited, Repr

/-- One component of a path, in the order in which components compare. -/
inductive Component where
  | root
  | current
  | parent
  | normal (name : String)
  deriving DecidableEq, Inhabited, Repr

namespace Component

/-- The place of a kind of component in the order of components. -/
def rank : Component → Nat
  | root => 0
  | current => 1
  | parent => 2
  | normal _ => 3

/-- Components compare by kind, and names by their characters. -/
def compare : Component → Component → Ordering
  | normal a, normal b => Ord.compare a b
  | a, b => Ord.compare a.rank b.rank

/-- The text of a component. -/
def text : Component → String
  | root => "/"
  | current => "."
  | parent => ".."
  | normal name => name

end Component

namespace Path

/-- A path that begins at the root. -/
def isAbsolute (p : Path) : Bool := p.text.toList.head? == some '/'

/-- The component of a piece between two slashes; an empty piece and a dot are none. -/
def pieceComponent? (piece : List Char) : Option Component :=
  match piece with
  | [] => none
  | ['.'] => none
  | ['.', '.'] => some .parent
  | name => some (.normal (String.ofList name))

/-- The components of a path. -/
def components (p : Path) : List Component :=
  let pieces := Text.splitBy (· == '/') p.text.toList
  match pieces with
  | [] :: rest =>
    if p.isAbsolute then .root :: rest.filterMap pieceComponent? else []
  -- Only a dot in front is kept.
  | ['.'] :: rest => .current :: rest.filterMap pieceComponent?
  | pieces => pieces.filterMap pieceComponent?

/-- Two paths with the same components. -/
def same (p q : Path) : Bool := p.components == q.components

/-- Compare lists of components from the left. -/
def compareComponents : List Component → List Component → Ordering
  | [], [] => .eq
  | [], _ :: _ => .lt
  | _ :: _, [] => .gt
  | a :: as, b :: bs => (a.compare b).then (compareComponents as bs)

/-- Paths compare component by component. -/
def compare (p q : Path) : Ordering := compareComponents p.components q.components

/-- The path of a list of components. -/
def ofComponents (cs : List Component) : Path :=
  match cs with
  | .root :: rest => ⟨"/" ++ "/".intercalate (rest.map Component.text)⟩
  | cs => ⟨"/".intercalate (cs.map Component.text)⟩

/-- Add a component to a normal list of components, which holds its last one first. -/
def normalStep (stack : List Component) : Component → List Component
  | .root => [.root]
  | .current => stack
  | .parent =>
    -- There is nothing above a root, and nothing to undo at the beginning.
    match stack with
    | .normal _ :: rest => rest
    | .root :: _ => stack
    | _ => .parent :: stack
  | .normal name => .normal name :: stack

/-- The normal list of components of a list of components. -/
def normalComponents (cs : List Component) : List Component :=
  (cs.foldl normalStep []).reverse

/-- The path without `.` and, as far as they have something to undo, without `..`. -/
def normalize (p : Path) : Path := ofComponents (normalComponents p.components)

/-- `name` as seen from `base`; an absolute `name` stands for itself. -/
def join (base : Path) (name : String) : Path :=
  if name.toList.head? == some '/' || base.text.isEmpty then ⟨name⟩
  else if base.text.toList.getLast? == some '/' then ⟨base.text ++ name⟩
  else ⟨base.text ++ "/" ++ name⟩

/-- Join several names one after the other. -/
def joinAll (base : Path) (names : List String) : Path := names.foldl join base

/-- The path above the last component; none for a root and for the empty path. -/
def parent? (p : Path) : Option Path :=
  let pieces := (Text.splitBy (· == '/') p.text.toList).reverse
  match p.components.getLast? with
  | none | some .root => none
  | some _ =>
    -- The last component goes, and with it what is void behind and before it.
    let above := dropVoid (dropVoid pieces).tail
    let text := ['/'].intercalate above.reverse
    some ⟨String.ofList (if p.isAbsolute && text.isEmpty then ['/'] else text)⟩
where
  /-- Drop the pieces in front that are no components; the last piece of all is one if
  it is a dot. -/
  dropVoid : List (List Char) → List (List Char)
    | [] :: rest => if rest.isEmpty then [[]] else dropVoid rest
    | ['.'] :: rest => if rest.isEmpty then [['.']] else dropVoid rest
    | pieces => pieces

/-- The directory of a path, or the path itself if there is none. -/
def parentOrSelf (p : Path) : Path := p.parent?.getD p

/-- The paths above a path, nearest first. -/
def ancestors (p : Path) : List Path :=
  climb p.components.length p
where
  /-- Climb at most `fuel` times. -/
  climb : Nat → Path → List Path
    | 0, _ => []
    | fuel + 1, p =>
      match p.parent? with
      | some above => above :: climb fuel above
      | none => []

/-- The last component, if it is a name. -/
def fileName? (p : Path) : Option String :=
  match p.components.getLast? with
  | some (.normal name) => some name
  | _ => none

/-- The name before the last dot and what follows that dot; a leading dot alone does
not count. -/
def splitName (name : String) : String × Option String :=
  let backwards := name.toList.reverse
  let after := backwards.takeWhile (· != '.')
  match backwards.drop after.length with
  | _ :: before =>
    if before.isEmpty then (name, none)
    else (String.ofList before.reverse, some (String.ofList after.reverse))
  | [] => (name, none)

/-- What follows the last dot of the file name. -/
def extension? (p : Path) : Option String := p.fileName?.bind fun name => (splitName name).2

/-- The file name without its extension. -/
def stem? (p : Path) : Option String := p.fileName?.map fun name => (splitName name).1

/-- The components of `p` below `root`, if it is at or under it. -/
def under? (root p : Path) : Option (List Component) :=
  let base := root.components
  if base.isPrefixOf p.components then some (p.components.drop base.length) else none

/-- Whether `p` is at or under `root`. -/
def isUnder (p root : Path) : Bool := (under? root p).isSome

/-- How a path is shown as seen from a root: with forward slashes, whole if it is not
under the root. -/
def relativeTo (root p : Path) : String :=
  match under? root p with
  | some below => "/".intercalate (below.map Component.text)
  | none => p.text.map fun c => if c == '\\' then '/' else c

/-- The path a caller means: an absolute one as it is, another one below the root. -/
def resolveIn (root : Path) (text : String) : Path :=
  let candidate : Path := ⟨text⟩
  if candidate.isAbsolute then candidate.normalize else (root.join text).normalize

/-- The path with a suffix added to its text. -/
def withSuffix (p : Path) (suffix : String) : Path := ⟨p.text ++ "." ++ suffix⟩

end Path

end SourceRetrieval
