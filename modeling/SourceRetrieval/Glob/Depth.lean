/-
How deep a glob nests.

* `Token.extent` says how many items a part of a glob takes and how deep they nest, when
  braces and wildcards are written out as groups and repetitions;
* `Glob.isDeep` holds of the globs that nest deeper than may be.

Design notes: a group, a repetition, a set, several items beside each other and several
branches each make one level.  Only braces within braces can nest deeper than five.
-/
import SourceRetrieval.Glob.Basic

namespace SourceRetrieval.Glob

/-- How deep a glob may nest. -/
def depthLimit : Nat := 250

/-- One level more where there are several things beside each other. -/
def levelOf (count : Nat) : Nat := if count < 2 then 0 else 1

mutual

/-- How many items a part takes, and how deep they nest; a part that stands for nothing
takes none. -/
def Token.extent (keepSlashes : Bool) : Token → Nat × Nat
  | .byte _ => (1, 0)
  | .any => (1, if keepSlashes then 1 else 0)
  | .star => (1, if keepSlashes then 2 else 1)
  | .leadingDirs => (1, 4)
  | .trailingDirs => (2, 1)
  | .innerDirs => (1, 4)
  | .set _ ranges => (1, 1 + levelOf ranges.length)
  | .choice branches =>
    let (count, depth) := branchExtent keepSlashes branches
    if count == 0 then (0, 0) else (1, 1 + levelOf count + depth)

/-- How many items some parts take, and how deep they nest. -/
def extent (keepSlashes : Bool) : List Token → Nat × Nat
  | [] => (0, 0)
  | token :: tokens =>
    let (count, depth) := token.extent keepSlashes
    let (others, deepest) := extent keepSlashes tokens
    (count + others, max depth deepest)

/-- How many branches stand for something, and how deep they nest. -/
def branchExtent (keepSlashes : Bool) : List (List Token) → Nat × Nat
  | [] => (0, 0)
  | branch :: branches =>
    let (count, depth) := extent keepSlashes branch
    let (others, deepest) := branchExtent keepSlashes branches
    if count == 0 then (others, deepest)
    else (others + 1, max (levelOf count + depth) deepest)

end

/-- Whether a glob nests deeper than may be; it stands between the ends of the text, so
there are always several items. -/
def isDeep (glob : Glob) : Bool := depthLimit < 1 + (extent glob.keepSlashes glob.tokens).2

end SourceRetrieval.Glob
