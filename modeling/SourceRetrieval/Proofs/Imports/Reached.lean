/-
All files that imports lead to.

* `isBreadthFirst_traverse` — what a traversal finds are files at the ends of shortest
  chains of imports, nearest first, each once;
* `mem_reached_of_chain` — if there are no more files than places, a traversal that has
  room for all of them (`reached`) leaves none out;
* `traverse_eq_take` — every traversal finds the first ones of those.

Design notes: what a traversal finds has different places, so it is never more than
there are places, and one place of room is left.  Hence no traversal finds more than
`reached`, whatever room it has.
-/
import Mathlib.Data.List.Perm.Subperm
import SourceRetrieval.Proofs.Imports.BreadthFirst

namespace SourceRetrieval.ImportGraph

open SourceRetrieval.Path

variable {graph : ImportGraph} {files : FileMap} {start : AnalyzedFile} {maxHops maxFiles : Nat}

/-! ### The direction of what is found -/

section Direction

variable {load : Loader} {depth : Nat} {P : RelatedFile → Prop}
  (himports : ∀ file hops via, P ⟨file, hops, via, .imports⟩)

include himports

theorem forall_related_follow {edges : List (String × Path)} {found : Found}
    (h : ∀ related ∈ found.related, P related) :
    ∀ related ∈ (follow load maxFiles depth edges found).1.related, P related := by
  induction edges generalizing found with
  | nil => exact h
  | cons edge edges ih =>
    rw [follow]
    split
    · exact h
    · refine ih fun related hrelated => ?_
      obtain ⟨-, heq⟩ | ⟨-, -, heq⟩ | ⟨-, file, -, heq⟩ := meet_cases load depth edge found
      · exact h related (heq ▸ hrelated)
      · rw [heq] at hrelated
        exact h related hrelated
      · rw [heq] at hrelated
        rcases List.mem_append.mp hrelated with hold | hnew
        · exact h related hold
        · rw [List.mem_singleton.mp hnew]
          exact himports _ _ _

/-- Of files reached by imports holds what holds of all such. -/
theorem Finishes.forall_related {found last : Found}
    (h : graph.Finishes load maxHops maxFiles found last)
    (hfound : ∀ related ∈ found.related, P related) : ∀ related ∈ last.related, P related := by
  have hturn : ∀ {found after : Found} {full : Bool},
      graph.turn load maxHops maxFiles found = some (after, full) →
      (∀ related ∈ found.related, P related) → ∀ related ∈ after.related, P related := by
    intro found after full hturn hfound
    obtain ⟨file, depth, rest, -, ⟨-, -, rfl⟩ | ⟨-, hfollow⟩⟩ := turn_cases hturn
    · exact hfound
    · have hafter := @forall_related_follow maxFiles load depth P himports
        (graph.dependencies file) { found with queue := rest } hfound
      rwa [hfollow] at hafter
  induction h with
  | empty _ => exact hfound
  | full hfull => exact hturn hfull hfound
  | next hnext _ ih => exact ih (hturn hnext hfound)

end Direction

/-! ### What a traversal finds -/

/-- Files at the ends of shortest chains of imports, nearest first, each once and the start not
among them. -/
structure IsBreadthFirst (graph : ImportGraph) (files : FileMap) (start : AnalyzedFile)
    (maxHops : Nat) (found : List RelatedFile) : Prop where
  distinct : (found.map fun related => related.file.path.components).Nodup
  other : ∀ related ∈ found, related.file.path.components ≠ start.path.components
  direction : ∀ related ∈ found, related.direction = .imports
  chain : ∀ related ∈ found, Chain graph files start related.hops related.file
  shortest : ∀ related ∈ found, ∀ n, Chain graph files start n related.file → related.hops ≤ n
  hops_pos : ∀ related ∈ found, 1 ≤ related.hops
  hops_le : ∀ related ∈ found, related.hops ≤ maxHops
  sorted : found.Pairwise fun a b => a.hops ≤ b.hops

theorem isBreadthFirst_of_isFrontier {closed pending : List (AnalyzedFile × Nat)} {found : Found}
    (h : IsFrontier graph files start maxHops closed pending found)
    (hdirection : ∀ related ∈ found.related, related.direction = .imports) :
    IsBreadthFirst graph files start maxHops found.related := by
  have hnode : ∀ related ∈ found.related, (related.file, related.hops) ∈ nodes start found :=
    fun related hmem => List.mem_cons_of_mem _ (List.mem_map_of_mem hmem)
  obtain ⟨hnew, hdistinct⟩ := List.nodup_cons.mp h.distinct
  rw [List.map_map] at hnew hdistinct
  have hother : ∀ related ∈ found.related,
      related.file.path.components ≠ start.path.components :=
    fun related hmem hsame => hnew (List.mem_map.mpr ⟨related, hmem, hsame⟩)
  constructor
  case distinct => exact hdistinct
  case other => exact hother
  case direction => exact hdirection
  case chain => exact fun related hmem => h.chain _ (hnode related hmem)
  case shortest => exact fun related hmem => h.shortest _ (hnode related hmem)
  case hops_le => exact fun related hmem => h.hops_le _ (hnode related hmem)
  case sorted =>
    have hsorted := (List.pairwise_cons.mp h.sorted).2
    rwa [List.pairwise_map] at hsorted
  case hops_pos =>
    intro related hmem
    obtain ⟨-, hstart⟩ | ⟨hpos, -⟩ := (h.chain _ (hnode related hmem)).eq_start_or
    · exact absurd (congrArg (·.path.components) hstart) (hother related hmem)
    · exact hpos

/-- What a traversal finds when it is over. -/
theorem traverse_spec (graph : ImportGraph) (files : FileMap) (start : AnalyzedFile)
    (maxHops maxFiles : Nat) :
    ∃ last, graph.Finishes files.load maxHops maxFiles (Found.begin start) last
      ∧ last.related = (graph.traverse files.load start maxHops maxFiles).run
      ∧ IsBreadthFirst graph files start maxHops last.related
      ∧ (last.related.length < maxFiles → ∀ n file, n ≤ maxHops → Chain graph files start n file →
        file.path.components ≠ start.path.components → ∃ related ∈ last.related,
          related.file = file) := by
  obtain ⟨last, hfinishes, hlast⟩ :=
    exists_finishes_traverse graph files.load start maxHops maxFiles
  obtain ⟨closed, pending, hfrontier, hempty⟩ :=
    (@isFrontier_begin graph files start maxHops).finishes hfinishes
  have hdirection : ∀ related ∈ last.related, related.direction = .imports :=
    hfinishes.forall_related (fun _ _ _ => rfl) (by nofun)
  refine ⟨last, hfinishes, hlast, isBreadthFirst_of_isFrontier hfrontier hdirection, ?_⟩
  intro hroom n file hn hchain hother
  -- Nothing is pending, so every chain that is short enough has been followed to its end.
  obtain ⟨k, -, hfound⟩ := hfrontier.reached hn (by rw [hempty hroom]; nofun) hchain
  rcases List.mem_cons.mp hfound with hstart | hfound
  · exact absurd (congrArg (·.1.path.components) hstart) hother
  · obtain ⟨related, hmem, heq⟩ := List.mem_map.mp hfound
    exact ⟨related, hmem, congrArg Prod.fst heq⟩

theorem isBreadthFirst_traverse (graph : ImportGraph) (files : FileMap) (start : AnalyzedFile)
    (maxHops maxFiles : Nat) :
    IsBreadthFirst graph files start maxHops
      (graph.traverse files.load start maxHops maxFiles).run := by
  obtain ⟨last, -, hlast, hbreadth, -⟩ := traverse_spec graph files start maxHops maxFiles
  exact hlast ▸ hbreadth

theorem take_traverse (graph : ImportGraph) (files : FileMap) (start : AnalyzedFile)
    (maxHops : Nat) {fewer : Nat} (hle : fewer ≤ maxFiles) :
    (graph.traverse files.load start maxHops fewer).run
      = (graph.traverse files.load start maxHops maxFiles).run.take fewer := by
  obtain ⟨last, hfinishes, hlast, -⟩ := traverse_spec graph files start maxHops fewer
  obtain ⟨all, hall, hallRelated, -⟩ := traverse_spec graph files start maxHops maxFiles
  rw [← hlast, ← hallRelated]
  exact hfinishes.take_related hle hall (Nat.zero_le _)

/-! ### All that is found -/

/-- What a traversal finds if there are no more files than places. -/
def reached (graph : ImportGraph) (files : FileMap) (start : AnalyzedFile)
    (places : List (List Component)) (maxHops : Nat) : List RelatedFile :=
  (graph.traverse files.load start maxHops (places.length + 1)).run

section Places

variable {places : List (List Component)}
  (hplaces : ∀ {place file}, files.at? place = some file → place ∈ places)

include hplaces

/-- No more files are found than there are places. -/
theorem length_traverse_le :
    (graph.traverse files.load start maxHops maxFiles).run.length ≤ places.length := by
  have hbreadth := isBreadthFirst_traverse graph files start maxHops maxFiles
  have hsubset : ((graph.traverse files.load start maxHops maxFiles).run.map
      fun related => related.file.path.components) ⊆ places := by
    intro place hplace
    obtain ⟨related, hmem, rfl⟩ := List.mem_map.mp hplace
    obtain ⟨-, hstart⟩ | ⟨-, -, hfile⟩ := (hbreadth.chain related hmem).eq_start_or
    · exact absurd (congrArg (·.path.components) hstart) (hbreadth.other related hmem)
    · exact hplaces hfile
  have hle := (List.subperm_of_subset hbreadth.distinct hsubset).length_le
  rwa [List.length_map] at hle

/-- Every traversal finds the first ones of all the files that imports lead to. -/
theorem traverse_eq_take (graph : ImportGraph) (start : AnalyzedFile) (maxHops maxFiles : Nat) :
    (graph.traverse files.load start maxHops maxFiles).run
      = (reached graph files start places maxHops).take maxFiles := by
  rw [reached]
  by_cases hle : maxFiles ≤ places.length + 1
  · exact take_traverse graph files start maxHops hle
  · -- There is more room than places, and then it does not matter how much.
    have hlength := @length_traverse_le graph files start maxHops maxFiles places hplaces
    rw [take_traverse graph files start maxHops (Nat.le_of_lt (Nat.not_le.mp hle)),
      List.take_take, Nat.min_eq_right (Nat.le_of_lt (Nat.not_le.mp hle)),
      List.take_of_length_le (Nat.le_succ_of_le hlength)]

/-- Every file within `maxHops` imports is reached. -/
theorem mem_reached_of_chain {n : Nat} {file : AnalyzedFile} (hn : n ≤ maxHops)
    (hchain : Chain graph files start n file)
    (hother : file.path.components ≠ start.path.components) :
    ∃ related ∈ reached graph files start places maxHops, related.file = file := by
  obtain ⟨last, -, hlast, -, hcomplete⟩ :=
    traverse_spec graph files start maxHops (places.length + 1)
  have hlength := @length_traverse_le graph files start maxHops (places.length + 1) places hplaces
  rw [hlast] at hcomplete
  exact hcomplete (Nat.lt_succ_of_le hlength) n file hn hchain hother

end Places

theorem isBreadthFirst_reached (graph : ImportGraph) (files : FileMap) (start : AnalyzedFile)
    (places : List (List Component)) (maxHops : Nat) :
    IsBreadthFirst graph files start maxHops (reached graph files start places maxHops) :=
  isBreadthFirst_traverse graph files start maxHops (places.length + 1)

end SourceRetrieval.ImportGraph
