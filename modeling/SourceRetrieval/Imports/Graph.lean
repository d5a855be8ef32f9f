/-
The graph of imports.

* `ImportGraph.dependencies` are the edges that lead out of a file,
  `ImportGraph.importOf?` is the edge from a file to a given one;
* `ImportGraph.traverse` follows edges breadth first.

Design notes: the graph is given by a function that resolves a specifier.
Loading a file is an action of some monad, so that a traversal can count and
cache what it loads.  Every file that enters the queue is a file of the
result, which bounds the number of steps.
-/
import SourceRetrieval.Analysis

namespace SourceRetrieval

/-- How a related file is connected. -/
inductive EdgeDirection where
  /-- Reached by following imports. -/
  | imports
  /-- Imports the start file. -/
  | importedBy
  deriving DecidableEq, Inhabited, Repr

/-- A related file. -/
structure RelatedFile where
  file : AnalyzedFile
  /-- The number of edges to it. -/
  hops : Nat
  /-- The specifier of the last edge. -/
  via : String
  direction : EdgeDirection
  deriving Inhabited

/-- The score of a related file: the closer, the higher. -/
def RelatedFile.score (related : RelatedFile) : Float :=
  match related.direction, related.hops with
  | .importedBy, _ => 80
  | .imports, 0 | .imports, 1 => 100
  | .imports, 2 => 60
  | .imports, _ => 20

/-- A graph of imports: the files that a specifier in a file of a language names. -/
structure ImportGraph where
  resolve : Path → String → Option Language → List Path

namespace ImportGraph

/-- The edges out of a file: specifiers with what they name. -/
def dependencies (graph : ImportGraph) (file : AnalyzedFile) : List (String × Path) :=
  file.outline.imports.flatMap fun spec =>
    (graph.resolve file.path spec file.language).map fun target => (spec, target)

/-- The first specifier in a file that names another given one. -/
def importOf? (graph : ImportGraph) (file : AnalyzedFile) (target : Path) : Option String :=
  if file.path.same target then none
  else file.outline.imports.find? fun spec =>
    (graph.resolve file.path spec file.language).any (·.same target)

/-- What a traversal has found. -/
structure Found where
  related : List RelatedFile
  visited : List Path
  /-- Files whose edges are still to be followed, with their distance. -/
  queue : List (AnalyzedFile × Nat)

/-- Follow the edges out of a file at distance `depth`; whether the result is full. -/
def followEdges {m : Type → Type} [Monad m] (load : Path → m (Option AnalyzedFile))
    (maxFiles depth : Nat) : List (String × Path) → Found → m (Found × Bool)
  | [], found => return (found, false)
  | (spec, target) :: edges, found => do
    if maxFiles ≤ found.related.length then return (found, true)
    else if found.visited.any (·.same target) then followEdges load maxFiles depth edges found
    else
      -- A target counts as visited even if it turns out not to be loadable.
      let found := { found with visited := target :: found.visited }
      match ← load target with
      | none => followEdges load maxFiles depth edges found
      | some file =>
        let related : RelatedFile := ⟨file, depth + 1, spec, .imports⟩
        followEdges load maxFiles depth edges
          { found with
            related := found.related ++ [related]
            queue := found.queue ++ [(file, depth + 1)] }

/-- Work off the queue in at most `fuel` steps. -/
def drain {m : Type → Type} [Monad m] (graph : ImportGraph)
    (load : Path → m (Option AnalyzedFile)) (maxHops maxFiles : Nat) : Nat → Found → m Found
  | 0, found => return found
  | fuel + 1, found => do
    match found.queue with
    | [] => return found
    | (file, depth) :: rest =>
      let found := { found with queue := rest }
      -- A file at the greatest distance is one of the result, but leads no further.
      if maxHops ≤ depth then graph.drain load maxHops maxFiles fuel found
      else
        let (found, full) ← followEdges load maxFiles depth (graph.dependencies file) found
        if full then return found else graph.drain load maxHops maxFiles fuel found

/-- The files within `maxHops` edges of a file, nearest first, at most `maxFiles` of them and
none of them the file itself. -/
def traverse {m : Type → Type} [Monad m] (graph : ImportGraph)
    (load : Path → m (Option AnalyzedFile)) (start : AnalyzedFile) (maxHops maxFiles : Nat) :
    m (List RelatedFile) := do
  let found ← graph.drain load maxHops maxFiles (maxFiles + 1) ⟨[], [start.path], [(start, 0)]⟩
  return found.related

end ImportGraph

end SourceRetrieval
