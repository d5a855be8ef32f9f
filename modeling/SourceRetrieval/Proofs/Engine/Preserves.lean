/-
Work that preserves a property of the cache.

Every call of an engine comes down to loads of single files.  What each of these
preserves, the call preserves:

* `preserves_traverse`, `preserves_relatedFiles` — for following imports and
  for finding importers;
* `preserves_searchPlan` — for a search;
* `search_preserves`, `analyze_preserves`, `findRelated_preserves` — for the calls.

Design notes: work is put together with `bind`, and a piece that preserves a
property may be followed by any other that does (`Preserves.bind`).  What a piece
of work returns does not matter here.
-/
import SourceRetrieval.Engine.Related

namespace SourceRetrieval.Engine

/-- The work leaves a cache with the property if it finds such. -/
def Preserves {α : Type} (P : AnalysisCache → Prop) (work : Work α) : Prop :=
  ∀ session, P session.cache → P (work session).2.cache

variable {P : AnalysisCache → Prop} {engine : Engine} {tree : FileTree} {α β : Type}

theorem Preserves.pure (value : α) : Preserves P (pure value) := fun _ h => h

theorem Preserves.bind {work : Work α} {next : α → Work β} (hwork : Preserves P work)
    (hnext : ∀ value, Preserves P (next value)) : Preserves P (work >>= next) :=
  fun session h => hnext (work session).1 (work session).2 (hwork session h)

theorem Preserves.get : Preserves P get := fun _ h => h

theorem Preserves.run {work : Work α} (hwork : Preserves P work) (h : P engine.cache) :
    P (engine.run work).2.cache := hwork _ h

/-! ### Loading -/

theorem preserves_loadPath {path : Path} {maxSize : Nat}
    (hload : ∀ known, tree.stat path = .ok known → known.isDir = false →
      Preserves P (engine.loadKnown tree path known.modified known.size maxSize)) :
    Preserves P (engine.loadPath tree path maxSize) := by
  rw [loadPath]
  cases hstat : tree.stat path with
  | error failure => exact .pure _
  | ok known =>
    simp only []
    split
    · exact .pure _
    next hdir => exact hload known hstat (by simpa using hdir)

theorem preserves_loadCandidate {maxSize : Nat} {candidate : Candidate}
    (hload : Preserves P
      (engine.loadKnown tree candidate.path candidate.modified candidate.size maxSize)) :
    Preserves P (engine.loadCandidate tree maxSize candidate) := by
  refine Preserves.bind hload fun result => ?_
  cases result with
  | error failure => exact .pure _
  | ok loaded => exact fun _ h => h

theorem preserves_loadTarget {walker : Walker} {path : Path}
    (hload : ∀ candidate, walker.admit? tree path = some candidate →
      Preserves P (engine.loadCandidate tree walker.maxFileSize candidate)) :
    Preserves P (engine.loadTarget tree walker path) := by
  rw [loadTarget]
  cases hadmitted : walker.admit? tree path with
  | none => exact .pure _
  | some candidate => exact hload candidate hadmitted

/-! ### Following imports -/

section Imports

variable {load : Path → Work (Option AnalyzedFile)}

theorem preserves_followEdges (maxFiles depth : Nat) {edges : List (String × Path)}
    (hload : ∀ edge ∈ edges, Preserves P (load edge.2)) (found : ImportGraph.Found) :
    Preserves P (ImportGraph.followEdges load maxFiles depth edges found) := by
  induction edges generalizing found with
  | nil => exact .pure _
  | cons edge edges ih =>
    obtain ⟨spec, target⟩ := edge
    -- However an edge is dealt with, the walk goes on with the edges after it or stops.
    have hrest := fun found => ih (fun e he => hload e (List.mem_cons_of_mem _ he)) found
    rw [ImportGraph.followEdges]
    split
    · exact .pure _
    · split
      · exact hrest found
      · refine Preserves.bind (hload (spec, target) List.mem_cons_self) fun loaded => ?_
        cases loaded with
        | none => exact hrest _
        | some file => exact hrest _

variable {graph : ImportGraph}
  (hload : ∀ file, ∀ edge ∈ graph.dependencies file, Preserves P (load edge.2))

include hload

theorem preserves_drain (maxHops maxFiles fuel : Nat) (found : ImportGraph.Found) :
    Preserves P (graph.drain load maxHops maxFiles fuel found) := by
  induction fuel generalizing found with
  | zero => exact .pure _
  | succ fuel ih =>
    rw [ImportGraph.drain]
    split
    · exact .pure _
    next file depth rest hqueue =>
      split
      · exact ih _
      · -- The file at the head of the queue is close enough for its imports to be followed.
        refine Preserves.bind (preserves_followEdges maxFiles depth (hload file) _) fun result => ?_
        obtain ⟨found, full⟩ := result
        cases full with
        | true => exact .pure _
        | false => exact ih _

theorem preserves_traverse (start : AnalyzedFile) (maxHops maxFiles : Nat) :
    Preserves P (graph.traverse load start maxHops maxFiles) :=
  Preserves.bind (preserves_drain hload maxHops maxFiles _ _) fun _ => .pure _

end Imports

theorem preserves_importersAmong {maxSize : Nat} (target : Path) {candidates : List Candidate}
    (hload : ∀ c ∈ candidates, Preserves P (engine.loadCandidate tree maxSize c)) :
    Preserves P (engine.importersAmong tree maxSize target candidates) := by
  induction candidates with
  | nil => exact .pure _
  | cons candidate rest ih =>
    rw [importersAmong]
    refine Preserves.bind (hload _ List.mem_cons_self) fun loaded => ?_
    exact Preserves.bind (ih fun c hc => hload c (List.mem_cons_of_mem _ hc)) fun _ => .pure _

theorem preserves_relatedFiles {walker : Walker} (start : AnalyzedFile) (target : Path)
    (maxHops limit : Nat)
    (htarget : ∀ file, ∀ edge ∈ (engine.importGraph tree).dependencies file,
      Preserves P (engine.loadTarget tree walker edge.2))
    (hwalk : ∀ c ∈ walker.walk tree,
      Preserves P (engine.loadCandidate tree walker.maxFileSize c)) :
    Preserves P (engine.relatedFiles tree walker start target maxHops limit) := by
  rw [relatedFiles]
  refine Preserves.bind (preserves_traverse htarget start maxHops limit) fun imported => ?_
  split
  · exact .pure _
  · refine Preserves.bind (preserves_importersAmong target fun c hc => ?_) fun _ => .pure _
    exact hwalk c (List.mem_filter.mp hc).1

/-! ### Searching -/

theorem preserves_collectHits {plan : QueryPlan} {options : ResolvedOptions}
    {candidates : List Candidate}
    (hload : ∀ c ∈ candidates, Preserves P (engine.loadCandidate tree options.maxFileSize c)) :
    Preserves P (engine.collectHits tree plan options candidates) := by
  induction candidates with
  | nil => exact .pure _
  | cons candidate rest ih =>
    rw [collectHits, scoreCandidate]
    refine Preserves.bind (Preserves.bind (hload _ List.mem_cons_self) fun loaded => ?_) fun hit => ?_
    · cases loaded <;> exact .pure _
    · exact Preserves.bind (ih fun c hc => hload c (List.mem_cons_of_mem _ hc)) fun _ => .pure _

theorem preserves_searchPlan (plan : QueryPlan) (options : ResolvedOptions) (cancelled : Bool)
    (hload : ∀ c ∈ (engine.walker options).walk tree,
      Preserves P (engine.loadCandidate tree options.maxFileSize c)) :
    Preserves P (engine.searchPlan tree plan options cancelled) := by
  refine Preserves.bind (preserves_collectHits fun c hc => ?_) fun hits =>
    Preserves.bind .get fun session => .pure _
  split at hc
  · exact absurd hc List.not_mem_nil
  · exact hload c hc

/-! ### Calls -/

theorem search_preserves (query : String) (options : SearchOptions) (cancelled : Bool)
    (hsearch : ∀ plan kind, Preserves P
      (engine.searchPlan tree plan (options.resolve engine.config kind) cancelled))
    (h : P engine.cache) : P (engine.search tree query options cancelled).2.cache := by
  rw [search]
  split
  · exact h
  · exact (hsearch _ _).run h

theorem analyze_preserves (path : String)
    (hload : Preserves P (engine.loadPath tree (engine.root.resolveIn path)
      engine.config.walker.maxFileSize))
    (h : P engine.cache) : P (engine.analyze tree path).2.cache := by
  refine Preserves.run (Preserves.bind hload fun loaded => ?_) h
  cases loaded <;> exact .pure _

theorem findRelated_preserves (path : String) (options : SearchOptions)
    (hload : Preserves P (engine.loadPath tree (engine.root.resolveIn path)
      (options.resolve engine.config .keyword).maxFileSize))
    (hrelated : ∀ start target maxHops limit, Preserves P (engine.relatedFiles tree
      (engine.walker (options.resolve engine.config .keyword)) start target maxHops limit))
    (h : P engine.cache) : P (engine.findRelated tree path options).2.cache := by
  refine Preserves.run (Preserves.bind hload fun loaded => ?_) h
  cases loaded with
  | error failure => exact .pure _
  | ok start =>
    refine Preserves.bind (hrelated _ _ _ _) fun related => ?_
    exact Preserves.bind .get fun session => .pure _

end SourceRetrieval.Engine
