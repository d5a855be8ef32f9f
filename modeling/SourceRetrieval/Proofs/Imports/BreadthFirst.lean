/-
Following imports goes breadth first.

* `Chain` — a chain of imports that leads from the start to a file;
* `IsFrontier` — what holds in the middle of a traversal, and `IsFrontier.reached`,
  which says that every file as near as the queue has been found;
* `traverse_breadth_first` — a traversal ends with each file at the length of a
  shortest chain to it, nearest first, and leaves a file out only if the result is
  full.

Design notes: the files found, with the start in front, are those that are closed
and then those that are pending.  A file stays pending until all its edges have
been followed, so its distance bounds those of all files found from below and from
above: none of the pending ones is nearer, and none of all is farther by more than
one.  Files are told apart by their paths, so whatever has the path of the start is
the start again; `Walk.exists_chain` says that this leaves out detours only.
-/
import SourceRetrieval.Proofs.Imports.Loop

namespace SourceRetrieval

open SourceRetrieval.Path

/-- Files that can be loaded, by the components of their paths. -/
structure FileMap where
  at? : List Component → Option AnalyzedFile
  path_eq : ∀ {place : List Component} {file : AnalyzedFile},
    at? place = some file → file.path.components = place

namespace FileMap

/-- Load the file of a path. -/
def load (files : FileMap) (path : Path) : Id (Option AnalyzedFile) := files.at? path.components

/-- The first of some files that has a path. -/
def ofList (list : List AnalyzedFile) : FileMap where
  at? place := list.find? fun file => decide (file.path.components = place)
  path_eq h := by simpa using List.find?_some h

end FileMap

namespace ImportGraph

variable {graph : ImportGraph} {files : FileMap} {start : AnalyzedFile}
  {maxHops maxFiles depth : Nat}

/-! ### Chains of imports -/

/-- A chain of edges out of the start, through files that can be loaded and are not the start
again. -/
inductive Chain (graph : ImportGraph) (files : FileMap) (start : AnalyzedFile) :
    Nat → AnalyzedFile → Prop where
  | start : Chain graph files start 0 start
  | step {n : Nat} {file next : AnalyzedFile} {edge : String × Path} :
      Chain graph files start n file → edge ∈ graph.dependencies file →
      files.at? edge.2.components = some next → next.path.components ≠ start.path.components →
      Chain graph files start (n + 1) next

theorem Chain.eq_start_or {n : Nat} {file : AnalyzedFile} (h : Chain graph files start n file) :
    (n = 0 ∧ file = start) ∨ (0 < n ∧ file.path.components ≠ start.path.components
      ∧ files.at? file.path.components = some file) := by
  cases h with
  | start => exact .inl ⟨rfl, rfl⟩
  | step _ _ hload hother =>
    refine .inr ⟨Nat.succ_pos _, hother, ?_⟩
    rw [files.path_eq hload]
    exact hload

/-- A file at the end of a chain is the only one with its path. -/
theorem Chain.unique {n m : Nat} {a b : AnalyzedFile} (ha : Chain graph files start n a)
    (hb : Chain graph files start m b) (hpath : a.path.components = b.path.components) : a = b := by
  obtain ⟨-, rfl⟩ | ⟨-, hother, hfile⟩ := ha.eq_start_or
  · obtain ⟨-, rfl⟩ | ⟨-, hother, -⟩ := hb.eq_start_or
    · rfl
    · exact absurd hpath.symm hother
  · obtain ⟨-, rfl⟩ | ⟨-, -, hfile'⟩ := hb.eq_start_or
    · exact absurd hpath hother
    · rw [hpath, hfile'] at hfile
      exact (Option.some_inj.mp hfile).symm

/-- A chain of edges out of the start, through any files that can be loaded. -/
inductive Walk (graph : ImportGraph) (files : FileMap) (start : AnalyzedFile) :
    Nat → AnalyzedFile → Prop where
  | start : Walk graph files start 0 start
  | step {n : Nat} {file next : AnalyzedFile} {edge : String × Path} :
      Walk graph files start n file → edge ∈ graph.dependencies file →
      files.at? edge.2.components = some next → Walk graph files start (n + 1) next

theorem Chain.walk {n : Nat} {file : AnalyzedFile} (h : Chain graph files start n file) :
    Walk graph files start n file := by
  induction h with
  | start => exact .start
  | step _ hedge hload _ ih => exact ih.step hedge hload

/-- To come back to the start is only a detour, unless another file has its path. -/
theorem Walk.exists_chain (hstart : ∀ file, files.at? start.path.components = some file →
    file = start) {n : Nat} {file : AnalyzedFile} (h : Walk graph files start n file) :
    ∃ m ≤ n, Chain graph files start m file := by
  induction h with
  | start => exact ⟨0, Nat.le_refl 0, .start⟩
  | @step n file next edge _ hedge hload ih =>
    obtain ⟨m, hm, hchain⟩ := ih
    by_cases hback : next.path.components = start.path.components
    · obtain rfl : next = start := by
        refine hstart next ?_
        rw [← hback, files.path_eq hload]
        exact hload
      exact ⟨0, Nat.zero_le _, .start⟩
    · exact ⟨m + 1, by omega, hchain.step hedge hload hback⟩

/-! ### The middle of a traversal -/

/-- The start and the files found, with their distances. -/
def nodes (start : AnalyzedFile) (found : Found) : List (AnalyzedFile × Nat) :=
  (start, 0) :: found.related.map fun related => (related.file, related.hops)

theorem nodes_append (found : Found) (related : RelatedFile) (visited : List Path)
    (queue : List (AnalyzedFile × Nat)) :
    nodes start ⟨found.related ++ [related], visited, queue⟩
      = nodes start found ++ [(related.file, related.hops)] := by
  simp [nodes]

/-- In the middle of a traversal: the edges out of the closed nodes have been followed, those
out of the pending ones have not. -/
structure IsFrontier (graph : ImportGraph) (files : FileMap) (start : AnalyzedFile) (maxHops : Nat)
    (closed pending : List (AnalyzedFile × Nat)) (found : Found) : Prop where
  nodes_eq : nodes start found = closed ++ pending
  sorted : (nodes start found).Pairwise fun a b => a.2 ≤ b.2
  hops_le : ∀ node ∈ nodes start found, node.2 ≤ maxHops
  near : ∀ first ∈ pending.head?, ∀ node ∈ nodes start found, node.2 ≤ first.2 + 1
  chain : ∀ node ∈ nodes start found, Chain graph files start node.2 node.1
  shortest : ∀ node ∈ nodes start found, ∀ n, Chain graph files start n node.1 → node.2 ≤ n
  distinct : ((nodes start found).map fun node => node.1.path.components).Nodup
  seen : ∀ node ∈ nodes start found, found.Seen node.1.path
  known : ∀ path, found.Seen path → files.at? path.components = none
    ∨ ∃ node ∈ nodes start found, node.1.path.components = path.components
  expanded : ∀ node ∈ closed, node.2 < maxHops → ∀ edge ∈ graph.dependencies node.1,
    ∀ next, files.at? edge.2.components = some next →
      next.path.components ≠ start.path.components →
      ∃ k ≤ node.2 + 1, (next, k) ∈ nodes start found

variable {closed pending : List (AnalyzedFile × Nat)} {found : Found}

/-- Nothing found yet, and the start in the queue. -/
def Found.begin (start : AnalyzedFile) : Found := ⟨[], [start.path], [(start, 0)]⟩

theorem isFrontier_begin : IsFrontier graph files start maxHops [] [(start, 0)]
    (Found.begin start) := by
  have honly : ∀ node ∈ nodes start (Found.begin start), node = (start, 0) := by
    intro node hnode
    exact List.mem_singleton.mp hnode
  constructor
  case nodes_eq => rfl
  case sorted => exact List.pairwise_singleton _ _
  case hops_le => intro node hnode; rw [honly node hnode]; exact Nat.zero_le _
  case near => intro first _ node hnode; rw [honly node hnode]; exact Nat.zero_le _
  case chain => intro node hnode; rw [honly node hnode]; exact .start
  case shortest => intro node hnode n _; rw [honly node hnode]; exact Nat.zero_le _
  case distinct => exact List.nodup_singleton _
  case seen =>
    intro node hnode
    rw [honly node hnode]
    exact ⟨start.path, List.mem_singleton_self _, rfl⟩
  case known =>
    rintro path ⟨met, hmet, hpath⟩
    rw [List.mem_singleton.mp hmet] at hpath
    exact .inr ⟨(start, 0), List.mem_singleton_self _, hpath⟩
  case expanded => intro node hnode; cases hnode

namespace IsFrontier

/-- The end of every chain that is no longer than the distances of the pending nodes has been
found. -/
theorem reached (h : IsFrontier graph files start maxHops closed pending found) {n : Nat}
    (hn : n ≤ maxHops) (hpending : ∀ node ∈ pending, n ≤ node.2) {file : AnalyzedFile}
    (hchain : Chain graph files start n file) : ∃ k ≤ n, (file, k) ∈ nodes start found := by
  induction hchain with
  | start => exact ⟨0, Nat.le_refl 0, List.mem_cons_self⟩
  | @step n file next edge _ hedge hload hother ih =>
    obtain ⟨k, hk, hnode⟩ := ih (by omega) fun node hnode => by
      have := hpending node hnode
      omega
    -- The file before is nearer than any pending one, so it is closed.
    have hclosed : (file, k) ∈ closed := by
      rw [h.nodes_eq] at hnode
      rcases List.mem_append.mp hnode with hclosed | hpend
      · exact hclosed
      · have : n + 1 ≤ k := hpending _ hpend
        omega
    obtain ⟨j, hj, hnext⟩ := h.expanded _ hclosed (by show k < maxHops; omega) edge hedge next
      hload hother
    exact ⟨j, by have : j ≤ k + 1 := hj; omega, hnext⟩

/-- A path that can be loaded and has been met is that of a node. -/
theorem mem_nodes_of_seen (h : IsFrontier graph files start maxHops closed pending found)
    {path : Path} {n : Nat} {next : AnalyzedFile} (hseen : found.Seen path)
    (hload : files.at? path.components = some next) (hchain : Chain graph files start n next) :
    ∃ k, (next, k) ∈ nodes start found := by
  obtain hnone | ⟨⟨file, k⟩, hnode, hpath⟩ := h.known path hseen
  · rw [hnone] at hload
    cases hload
  · refine ⟨k, ?_⟩
    rwa [← (h.chain _ hnode).unique hchain (hpath.trans (files.path_eq hload).symm)]

theorem head_mem {first : AnalyzedFile × Nat}
    (h : IsFrontier graph files start maxHops closed (first :: pending) found) :
    first ∈ nodes start found := by
  rw [h.nodes_eq]
  exact List.mem_append_right _ List.mem_cons_self

theorem head_le {first : AnalyzedFile × Nat}
    (h : IsFrontier graph files start maxHops closed (first :: pending) found) :
    ∀ node ∈ first :: pending, first.2 ≤ node.2 := by
  intro node hnode
  have hsorted := h.sorted
  rw [h.nodes_eq] at hsorted
  have htail := (List.pairwise_append.mp hsorted).2.1
  rcases List.mem_cons.mp hnode with rfl | hnode
  · exact Nat.le_refl _
  · exact (List.pairwise_cons.mp htail).1 node hnode

/-- Meet an edge out of the first pending file. -/
theorem meet {file : AnalyzedFile}
    (h : IsFrontier graph files start maxHops closed ((file, depth) :: found.queue) found)
    (hdepth : depth < maxHops) {edge : String × Path} (hedge : edge ∈ graph.dependencies file) :
    IsFrontier graph files start maxHops closed
      ((file, depth) :: (ImportGraph.meet files.load depth edge found).queue)
      (ImportGraph.meet files.load depth edge found) := by
  obtain ⟨-, heq⟩ | ⟨-, hload, heq⟩ | ⟨hnew, next, hload, heq⟩ :=
    meet_cases files.load depth edge found
  · rw [heq]
    exact h
  · -- The target counts as met, and nothing else changes.
    rw [heq]
    refine { h with seen := fun node hnode => ?_, known := ?_ }
    · obtain ⟨met, hmem, hmet⟩ := h.seen node hnode
      exact ⟨met, List.mem_cons_of_mem _ hmem, hmet⟩
    · rintro path ⟨met, hmem, hmet⟩
      rcases List.mem_cons.mp hmem with rfl | hmem
      · left
        rw [← hmet]
        exact hload
      · exact h.known path ⟨met, hmem, hmet⟩
  · have hpath : next.path.components = edge.2.components := files.path_eq hload
    have hunseen : ∀ node ∈ nodes start found,
        node.1.path.components ≠ next.path.components := by
      intro node hnode hsame
      obtain ⟨met, hmem, hmet⟩ := h.seen node hnode
      exact hnew ⟨met, hmem, by rw [hmet, hsame, hpath]⟩
    have hother : next.path.components ≠ start.path.components :=
      fun hsame => hunseen (start, 0) List.mem_cons_self hsame.symm
    have hnext : Chain graph files start (depth + 1) next :=
      (h.chain _ h.head_mem).step hedge hload hother
    have hall : ∀ {P : AnalyzedFile × Nat → Prop}, (∀ node ∈ nodes start found, P node) →
        P (next, depth + 1) →
        ∀ node ∈ nodes start found ++ [(next, depth + 1)], P node := by
      intro P hold hlast node hnode
      rcases List.mem_append.mp hnode with hnode | hnode
      · exact hold node hnode
      · rw [List.mem_singleton.mp hnode]
        exact hlast
    have hnear : ∀ node ∈ nodes start found, node.2 ≤ depth + 1 := h.near (file, depth) rfl
    rw [heq]
    constructor <;> simp only [nodes_append]
    case nodes_eq =>
      rw [h.nodes_eq, List.append_assoc]
      rfl
    case sorted =>
      refine List.pairwise_append.mpr ⟨h.sorted, List.pairwise_singleton _ _, ?_⟩
      intro a ha b hb
      rw [List.mem_singleton.mp hb]
      exact hnear a ha
    case hops_le => exact hall h.hops_le hdepth
    case near =>
      intro first hfirst
      obtain rfl : (file, depth) = first := Option.some_inj.mp hfirst
      exact hall hnear (Nat.le_refl _)
    case chain => exact hall h.chain hnext
    case shortest =>
      refine hall h.shortest fun n hchain => ?_
      -- If there were a shorter chain, the file would have been found before.
      by_contra hlt
      have hle : n ≤ depth := Nat.le_of_lt_succ (Nat.not_le.mp hlt)
      obtain ⟨k, -, hfound⟩ := h.reached (by omega)
        (fun node hnode => Nat.le_trans hle (h.head_le node hnode)) hchain
      exact hunseen _ hfound rfl
    case distinct =>
      rw [List.map_append]
      refine List.nodup_append.mpr ⟨h.distinct, List.nodup_singleton _, ?_⟩
      intro a ha b hb
      obtain ⟨node, hnode, rfl⟩ := List.mem_map.mp ha
      rw [List.map_singleton, List.mem_singleton] at hb
      rw [hb]
      exact hunseen node hnode
    case seen =>
      refine hall (fun node hnode => ?_) ⟨edge.2, List.mem_cons_self, hpath.symm⟩
      obtain ⟨met, hmem, hmet⟩ := h.seen node hnode
      exact ⟨met, List.mem_cons_of_mem _ hmem, hmet⟩
    case known =>
      rintro path ⟨met, hmem, hmet⟩
      rcases List.mem_cons.mp hmem with rfl | hmem
      · refine .inr ⟨(next, depth + 1), List.mem_append_right _ List.mem_cons_self, ?_⟩
        exact hpath.trans hmet
      · obtain hnone | ⟨node, hnode, hsame⟩ := h.known path ⟨met, hmem, hmet⟩
        · exact .inl hnone
        · exact .inr ⟨node, List.mem_append_left _ hnode, hsame⟩
    case expanded =>
      intro node hnode hhops edge hedge target hload hother
      obtain ⟨k, hk, hfound⟩ := h.expanded node hnode hhops edge hedge target hload hother
      exact ⟨k, hk, List.mem_append_left _ hfound⟩

theorem follow {file : AnalyzedFile} {edges : List (String × Path)}
    (h : IsFrontier graph files start maxHops closed ((file, depth) :: found.queue) found)
    (hdepth : depth < maxHops) (hedges : ∀ edge ∈ edges, edge ∈ graph.dependencies file) :
    let last := (ImportGraph.follow files.load maxFiles depth edges found).1
    IsFrontier graph files start maxHops closed ((file, depth) :: last.queue) last := by
  induction edges generalizing found with
  | nil => exact h
  | cons edge edges ih =>
    simp only [ImportGraph.follow]
    split
    · exact h
    · refine ih (h.meet hdepth (hedges edge List.mem_cons_self)) fun edge hedge => ?_
      exact hedges edge (List.mem_cons_of_mem _ hedge)

/-- Close the first pending file, which is too far away or has had all its edges followed. -/
theorem close {file : AnalyzedFile} {queue : List (AnalyzedFile × Nat)}
    (h : IsFrontier graph files start maxHops closed ((file, depth) :: queue) found)
    (hfollowed : depth < maxHops → ∀ edge ∈ graph.dependencies file, found.Seen edge.2) :
    IsFrontier graph files start maxHops (closed ++ [(file, depth)]) queue found := by
  have hnear : ∀ node ∈ nodes start found, node.2 ≤ depth + 1 := h.near (file, depth) rfl
  refine { h with nodes_eq := ?_, near := ?_, expanded := ?_ }
  · rw [h.nodes_eq, List.append_assoc]
    rfl
  · intro first hfirst node hnode
    have hle : depth ≤ first.2 :=
      h.head_le first (List.mem_cons_of_mem _ (List.mem_of_mem_head? hfirst))
    have := hnear node hnode
    omega
  · intro node hnode hhops edge hedge next hload hother
    rcases List.mem_append.mp hnode with hnode | hnode
    · exact h.expanded node hnode hhops edge hedge next hload hother
    · rw [List.mem_singleton.mp hnode] at hhops hedge ⊢
      obtain ⟨k, hnext⟩ := h.mem_nodes_of_seen (hfollowed hhops edge hedge) hload
        ((h.chain _ h.head_mem).step hedge hload hother)
      exact ⟨k, hnear _ hnext, hnext⟩

/-- The queue itself says nothing about what has been found. -/
theorem withQueue (h : IsFrontier graph files start maxHops closed pending found)
    (queue : List (AnalyzedFile × Nat)) :
    IsFrontier graph files start maxHops closed pending { found with queue := queue } := { h with }

/-- A turn leaves a frontier, and unless the result is full what is pending is the queue. -/
theorem turn {last : Found} {full : Bool}
    (h : IsFrontier graph files start maxHops closed found.queue found)
    (hturn : graph.turn files.load maxHops maxFiles found = some (last, full)) :
    ∃ closed pending, IsFrontier graph files start maxHops closed pending last
      ∧ (full = false → pending = last.queue) := by
  obtain ⟨file, depth, rest, hqueue, ⟨hfar, rfl, rfl⟩ | ⟨hdepth, hfollow⟩⟩ := turn_cases hturn
  · rw [hqueue] at h
    have hclosed := h.close fun hlt => absurd hlt (Nat.not_lt.mpr hfar)
    exact ⟨_, rest, hclosed.withQueue rest, fun _ => rfl⟩
  · rw [hqueue] at h
    have hlast := @follow graph files start maxHops maxFiles depth closed
      { found with queue := rest } file _ (h.withQueue rest) hdepth fun _ hedge => hedge
    simp only [hfollow] at hlast
    cases full with
    | true => exact ⟨closed, (file, depth) :: last.queue, hlast, nofun⟩
    | false =>
      have hclosed := hlast.close fun _ => seen_follow hfollow
      exact ⟨_, last.queue, hclosed, fun _ => rfl⟩

/-- The loop leaves a frontier, at which nothing is pending unless the result is full. -/
theorem finishes {last : Found}
    (h : IsFrontier graph files start maxHops closed found.queue found)
    (hfinishes : graph.Finishes files.load maxHops maxFiles found last) :
    ∃ closed pending, IsFrontier graph files start maxHops closed pending last
      ∧ (last.related.length < maxFiles → pending = []) := by
  induction hfinishes generalizing closed with
  | @empty found hturn => exact ⟨closed, found.queue, h, fun _ => turn_eq_none_iff.mp hturn⟩
  | full hturn =>
    obtain ⟨closed, pending, hlast, -⟩ := h.turn hturn
    exact ⟨closed, pending, hlast, fun hroom => absurd (le_length_of_turn hturn) (by omega)⟩
  | next hturn _ ih =>
    obtain ⟨closed, pending, hafter, hqueue⟩ := h.turn hturn
    rw [hqueue rfl] at hafter
    exact ih hafter

end IsFrontier

/-! ### Traversals -/

theorem exists_finishes_traverse (graph : ImportGraph) (load : Loader) (start : AnalyzedFile)
    (maxHops maxFiles : Nat) :
    ∃ last, graph.Finishes load maxHops maxFiles (Found.begin start) last
      ∧ last.related = graph.traverse load start maxHops maxFiles := by
  refine ⟨graph.drain load maxHops maxFiles (maxFiles + 1) (Found.begin start),
    finishes_drain (Nat.zero_le _) ?_, rfl⟩
  show 1 + (maxFiles - 0) ≤ maxFiles + 1
  omega

/-- A traversal ends.  The files it finds have different paths, none of them that of the start;
they come in the order of their distances, each with the length of a shortest chain of imports
to it, which is at least one and at most `maxHops`; and unless there are `maxFiles` of them they
are all the files to which there is such a chain.  To allow fewer files only cuts them short. -/
theorem traverse_breadth_first (graph : ImportGraph) (files : FileMap) (start : AnalyzedFile)
    (maxHops maxFiles : Nat) :
    let found := (graph.traverse files.load start maxHops maxFiles).run
    (∃ last, graph.Finishes files.load maxHops maxFiles (Found.begin start) last
        ∧ last.related = found)
      ∧ (found.map fun related => related.file.path.components).Nodup
      ∧ (∀ related ∈ found, related.file.path.components ≠ start.path.components)
      ∧ (∀ related ∈ found, Chain graph files start related.hops related.file
        ∧ (∀ n, Chain graph files start n related.file → related.hops ≤ n)
        ∧ 1 ≤ related.hops ∧ related.hops ≤ maxHops)
      ∧ found.Pairwise (fun a b => a.hops ≤ b.hops)
      ∧ found.length ≤ maxFiles
      ∧ (found.length < maxFiles → ∀ n file, 1 ≤ n → n ≤ maxHops →
        Chain graph files start n file → ∃ related ∈ found, related.file = file)
      ∧ ∀ fewer ≤ maxFiles,
        (graph.traverse files.load start maxHops fewer).run = found.take fewer := by
  intro found
  obtain ⟨last, hfinishes, hlast⟩ :=
    exists_finishes_traverse graph files.load start maxHops maxFiles
  have hrelated : last.related = found := hlast
  obtain ⟨closed, pending, hfrontier, hempty⟩ :=
    (@isFrontier_begin graph files start maxHops).finishes hfinishes
  have hnode : ∀ related ∈ found, (related.file, related.hops) ∈ nodes start last := by
    intro related hmem
    rw [← hrelated] at hmem
    exact List.mem_cons_of_mem _ (List.mem_map_of_mem hmem)
  have hdistinct := List.nodup_cons.mp hfrontier.distinct
  rw [List.map_map, hrelated] at hdistinct
  have hother : ∀ related ∈ found, related.file.path.components ≠ start.path.components := by
    intro related hmem hsame
    exact hdistinct.1 (List.mem_map.mpr ⟨related, hmem, hsame⟩)
  refine ⟨⟨last, hfinishes, hrelated⟩, hdistinct.2, hother, ?_, ?_, ?_, ?_, ?_⟩
  · intro related hmem
    have hchain := hfrontier.chain _ (hnode related hmem)
    refine ⟨hchain, hfrontier.shortest _ (hnode related hmem), ?_,
      hfrontier.hops_le _ (hnode related hmem)⟩
    obtain ⟨-, hstart⟩ | ⟨hpos, -⟩ := hchain.eq_start_or
    · exact absurd (congrArg (·.path.components) hstart) (hother related hmem)
    · exact hpos
  · have hsorted := (List.pairwise_cons.mp hfrontier.sorted).2
    rwa [List.pairwise_map, hrelated] at hsorted
  · rw [← hrelated]
    exact hfinishes.length_le (Nat.zero_le _)
  · intro hroom n file hpos hn hchain
    have hclosed : pending = [] := hempty (by rwa [hrelated])
    obtain ⟨k, -, hfound⟩ := hfrontier.reached hn (by rw [hclosed]; nofun) hchain
    rcases List.mem_cons.mp hfound with hstart | hfound
    · -- A chain that has an edge does not end at the start.
      obtain ⟨rfl, -⟩ | ⟨-, hne, -⟩ := hchain.eq_start_or
      · omega
      · exact absurd (congrArg (·.1.path.components) hstart) hne
    · obtain ⟨related, hmem, heq⟩ := List.mem_map.mp hfound
      exact ⟨related, hrelated ▸ hmem, congrArg Prod.fst heq⟩
  · intro fewer hle
    obtain ⟨cut, hcut, hcutRelated⟩ :=
      exists_finishes_traverse graph files.load start maxHops fewer
    have htake := hcut.take_related hle hfinishes (Nat.zero_le _)
    rw [hrelated] at htake
    rw [← htake]
    exact hcutRelated.symm

-- Imports in a circle, and one that cannot be loaded.
example :
    let graph : ImportGraph := ⟨fun _ spec _ => [⟨spec⟩]⟩
    let file (path : String) (imports : List String) : AnalyzedFile :=
      .make ⟨path⟩ path "" none { imports := imports }
    let a := file "/a" ["/b", "/c"]
    let files := FileMap.ofList [a, file "/b" ["/a", "/d"], file "/d" ["/b"]]
    ((graph.traverse files.load a 3 10).run.map fun related =>
      (related.file.path.text, related.hops)) = [("/b", 1), ("/d", 2)] := by
  decide

end ImportGraph

end SourceRetrieval
