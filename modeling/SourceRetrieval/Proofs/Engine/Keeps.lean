/-
Work that keeps the cache faithful.

* `Keeps` — a piece of work leaves faithful entries if it finds such;
* `keeps_loadPath`, `keeps_loadCandidate` — loading keeps the cache faithful, if the
  path is a plain one;
* `keeps_relatedFiles` — so to look for related files does, since imports name plain
  paths.

Design notes: to be faithful is a property of the cache, so what `Preserves` says of
work that is put together holds of `Keeps`.
-/
import SourceRetrieval.Proofs.Engine.Preserves
import SourceRetrieval.Proofs.Engine.Transparency
import SourceRetrieval.Proofs.Imports.Containment

namespace SourceRetrieval.Engine

open MemoryTree SourceRetrieval.Path

/-- The work leaves faithful entries if it finds such. -/
def Keeps {α : Type} (engine : Engine) (memory : MemoryTree) (work : Work α) : Prop :=
  ∀ session, engine.Trusts memory session.cache → engine.Trusts memory (work session).2.cache

variable {engine : Engine} {memory : MemoryTree}

theorem keeps_loadKnown {path : Path} {modified size : Nat}
    (hcurrent : IsCurrent memory path modified size) (maxSize : Nat) :
    engine.Keeps memory (engine.loadKnown memory.tree path modified size maxSize) :=
  fun _ htrusts => (loadKnown_spec hcurrent htrusts).1

theorem keeps_loadPath {path : Path} (hplain : path.IsPlain) (maxSize : Nat) :
    engine.Keeps memory (engine.loadPath memory.tree path maxSize) := by
  refine preserves_loadPath fun known hstat hdir => ?_
  have hknown : (memory.tree.stat path).toOption = some known := by
    rw [hstat]
    rfl
  exact keeps_loadKnown (isCurrent_of_stat hplain hknown hdir) maxSize

theorem keeps_loadCandidate {maxSize : Nat} {candidate : Candidate}
    (hcandidate : IsLoadable memory maxSize candidate) :
    engine.Keeps memory (engine.loadCandidate memory.tree maxSize candidate) :=
  preserves_loadCandidate (keeps_loadKnown hcandidate.current maxSize)

theorem keeps_loadTarget (walker : Walker) {path : Path} (hplain : path.IsPlain) :
    engine.Keeps memory (engine.loadTarget memory.tree walker path) :=
  preserves_loadTarget fun _ hadmitted =>
    keeps_loadCandidate (isLoadable_of_admit? hplain hadmitted)

/-! ### Related files -/

theorem isPlain_of_mem_dependencies (file : AnalyzedFile) :
    ∀ edge ∈ (engine.importGraph memory.tree).dependencies file, edge.2.IsPlain := by
  intro edge hedge
  obtain ⟨spec, -, htargets⟩ := List.mem_flatMap.mp hedge
  obtain ⟨target, htarget, rfl⟩ := List.mem_map.mp htargets
  exact Resolver.isPlain_of_mem_resolve htarget

theorem keeps_relatedFiles {walker : Walker} (hroot : walker.root.IsPlain) (start : AnalyzedFile)
    (target : Path) (maxHops limit : Nat) :
    engine.Keeps memory
      (engine.relatedFiles memory.tree walker start target maxHops limit) := by
  refine preserves_relatedFiles start target maxHops limit (fun file edge hedge => ?_) fun c hc => ?_
  · exact keeps_loadTarget walker (isPlain_of_mem_dependencies file edge hedge)
  · exact keeps_loadCandidate (isLoadable_of_mem_walk hroot hc)

end SourceRetrieval.Engine
