/-
The loop of a traversal.

A traversal takes the files from the front of its queue, one in each turn, and
meets the edges that lead out of them.

* `followEdges_eq`, `drain_succ` — what `traverse` does, one edge and one turn at
  a time;
* `finishes_drain` — the loop comes to an end, and the fuel of `traverse` lasts
  until then;
* `Finishes.take_related` — to allow fewer files only cuts the result short.

Design notes: files are loaded by a function here, not by an action.  `Finishes`
is the loop itself, without fuel.  A turn takes one file from the queue, and a
file that it adds takes one of the places that are left in the result, so places
and queue together get fewer.
-/
import SourceRetrieval.Imports.Graph
import SourceRetrieval.Proofs.Path.Components

namespace SourceRetrieval.ImportGraph

open SourceRetrieval.Path

/-- A loading of files that depends on nothing but the path. -/
abbrev Loader := Path → Id (Option AnalyzedFile)

variable {graph : ImportGraph} {load : Loader} {maxHops maxFiles depth : Nat}

/-! ### Edges -/

/-- What a traversal has found after an edge out of a file at distance `depth`. -/
def meet (load : Loader) (depth : Nat) (edge : String × Path) (found : Found) : Found :=
  if found.visited.any (·.same edge.2) then found
  else
    let found := { found with visited := edge.2 :: found.visited }
    match load edge.2 with
    | none => found
    | some file =>
      { found with
        related := found.related ++ [⟨file, depth + 1, edge.1, .imports⟩]
        queue := found.queue ++ [(file, depth + 1)] }

/-- Meet edges until the result is full; whether it is. -/
def follow (load : Loader) (maxFiles depth : Nat) : List (String × Path) → Found → Found × Bool
  | [], found => (found, false)
  | edge :: edges, found =>
    if maxFiles ≤ found.related.length then (found, true)
    else follow load maxFiles depth edges (meet load depth edge found)

theorem followEdges_eq (edges : List (String × Path)) (found : Found) :
    followEdges load maxFiles depth edges found = follow load maxFiles depth edges found := by
  induction edges generalizing found with
  | nil => rfl
  | cons edge edges ih =>
    rw [followEdges, follow, ← ih, meet]
    by_cases hfull : maxFiles ≤ found.related.length
    · simp only [if_pos hfull]; rfl
    · simp only [if_neg hfull]
      by_cases hseen : found.visited.any (·.same edge.2) = true
      · simp only [if_pos hseen]
      · simp only [if_neg hseen]
        cases load edge.2 <;> rfl

/-- A path that has been met. -/
def Found.Seen (found : Found) (path : Path) : Prop :=
  ∃ met ∈ found.visited, met.components = path.components

theorem any_same_iff {found : Found} {path : Path} :
    found.visited.any (·.same path) = true ↔ found.Seen path := by
  simp only [List.any_eq_true, same_iff, Found.Seen]

/-- An edge leads to a path met before, to one that cannot be loaded, or to a new file. -/
theorem meet_cases (load : Loader) (depth : Nat) (edge : String × Path) (found : Found) :
    (found.Seen edge.2 ∧ meet load depth edge found = found)
      ∨ (¬found.Seen edge.2 ∧ load edge.2 = none
        ∧ meet load depth edge found = { found with visited := edge.2 :: found.visited })
      ∨ (¬found.Seen edge.2 ∧ ∃ file, load edge.2 = some file
        ∧ meet load depth edge found =
          { related := found.related ++ [⟨file, depth + 1, edge.1, .imports⟩]
            visited := edge.2 :: found.visited
            queue := found.queue ++ [(file, depth + 1)] }) := by
  rw [meet]
  by_cases hseen : found.visited.any (·.same edge.2) = true
  · exact .inl ⟨any_same_iff.mp hseen, if_pos hseen⟩
  · have hnew : ¬found.Seen edge.2 := fun h => hseen (any_same_iff.mpr h)
    rw [if_neg hseen]
    cases hload : load edge.2 with
    | none => exact .inr (.inl ⟨hnew, rfl, rfl⟩)
    | some file => exact .inr (.inr ⟨hnew, file, rfl, rfl⟩)

theorem related_prefix_meet (edge : String × Path) (found : Found) :
    found.related <+: (meet load depth edge found).related := by
  obtain ⟨-, h⟩ | ⟨-, -, h⟩ | ⟨-, file, -, h⟩ := meet_cases load depth edge found
  · exact ⟨[], by rw [h, List.append_nil]⟩
  · exact ⟨[], by rw [h, List.append_nil]⟩
  · rw [h]
    exact List.prefix_append _ _

theorem related_prefix_follow (edges : List (String × Path)) (found : Found) :
    found.related <+: (follow load maxFiles depth edges found).1.related := by
  induction edges generalizing found with
  | nil => exact List.prefix_refl _
  | cons edge edges ih =>
    rw [follow]
    split
    · exact List.prefix_refl _
    · exact (related_prefix_meet edge found).trans (ih _)

theorem Found.Seen.meet {found : Found} {path : Path} (h : found.Seen path)
    (edge : String × Path) : (ImportGraph.meet load depth edge found).Seen path := by
  obtain ⟨met, hmem, hmet⟩ := h
  obtain ⟨-, h⟩ | ⟨-, -, h⟩ | ⟨-, file, -, h⟩ := meet_cases load depth edge found
  · rw [h]
    exact ⟨met, hmem, hmet⟩
  · rw [h]
    exact ⟨met, List.mem_cons_of_mem _ hmem, hmet⟩
  · rw [h]
    exact ⟨met, List.mem_cons_of_mem _ hmem, hmet⟩

theorem seen_meet (edge : String × Path) (found : Found) :
    (meet load depth edge found).Seen edge.2 := by
  obtain ⟨hseen, h⟩ | ⟨-, -, h⟩ | ⟨-, file, -, h⟩ := meet_cases load depth edge found
  · rw [h]
    exact hseen
  · rw [h]
    exact ⟨edge.2, List.mem_cons_self, rfl⟩
  · rw [h]
    exact ⟨edge.2, List.mem_cons_self, rfl⟩

theorem Found.Seen.follow {found : Found} {path : Path} (h : found.Seen path)
    (edges : List (String × Path)) :
    (ImportGraph.follow load maxFiles depth edges found).1.Seen path := by
  induction edges generalizing found with
  | nil => exact h
  | cons edge edges ih =>
    rw [ImportGraph.follow]
    split
    · exact h
    · exact ih (h.meet edge)

/-- Unless the result is full, every edge has been met. -/
theorem seen_follow {edges : List (String × Path)} {found last : Found}
    (h : follow load maxFiles depth edges found = (last, false)) :
    ∀ edge ∈ edges, last.Seen edge.2 := by
  induction edges generalizing found with
  | nil => intro edge hedge; cases hedge
  | cons first edges ih =>
    rw [follow] at h
    split at h
    · cases h
    · intro edge hedge
      rcases List.mem_cons.mp hedge with rfl | hedge
      · have hlast : (follow load maxFiles depth edges (meet load depth edge found)).1.Seen edge.2 :=
          (seen_meet edge found).follow edges
        rwa [h] at hlast
      · exact ih h edge hedge

/-! ### The length of the result -/

/-- Every file of the result is put into the queue when it is added. -/
theorem length_queue_meet (edge : String × Path) (found : Found) :
    (meet load depth edge found).queue.length + found.related.length
      = found.queue.length + (meet load depth edge found).related.length := by
  obtain ⟨-, h⟩ | ⟨-, -, h⟩ | ⟨-, file, -, h⟩ := meet_cases load depth edge found
  · rw [h]
  · rw [h]
  · rw [h]
    simp only [List.length_append, List.length_singleton]
    omega

theorem length_related_meet_le (edge : String × Path) (found : Found) :
    (meet load depth edge found).related.length ≤ found.related.length + 1 := by
  obtain ⟨-, h⟩ | ⟨-, -, h⟩ | ⟨-, file, -, h⟩ := meet_cases load depth edge found <;> simp [h]

theorem length_follow (edges : List (String × Path)) {found : Found}
    (h : found.related.length ≤ maxFiles) :
    let last := (follow load maxFiles depth edges found).1
    last.related.length ≤ maxFiles
      ∧ last.queue.length + found.related.length = found.queue.length + last.related.length := by
  induction edges generalizing found with
  | nil => exact ⟨h, rfl⟩
  | cons edge edges ih =>
    simp only [follow]
    split
    · exact ⟨h, rfl⟩
    next hroom =>
      have hmeet := @length_related_meet_le load depth edge found
      have hqueue := @length_queue_meet load depth edge found
      obtain ⟨hlast, hbalance⟩ := @ih (meet load depth edge found) (by omega)
      exact ⟨hlast, by omega⟩

theorem le_length_of_full {edges : List (String × Path)} {found last : Found}
    (h : follow load maxFiles depth edges found = (last, true)) :
    maxFiles ≤ last.related.length := by
  induction edges generalizing found with
  | nil => cases h
  | cons edge edges ih =>
    rw [follow] at h
    split at h
    next hfull =>
      cases h
      exact hfull
    · exact ih h

/-! ### Turns -/

/-- Take a file from the queue and follow its edges, if it is close enough. -/
def turn (graph : ImportGraph) (load : Loader) (maxHops maxFiles : Nat) (found : Found) :
    Option (Found × Bool) :=
  match found.queue with
  | [] => none
  | (file, depth) :: rest =>
    let found := { found with queue := rest }
    if maxHops ≤ depth then some (found, false)
    else some (follow load maxFiles depth (graph.dependencies file) found)

/-- The loop of turns ends with what is found last. -/
inductive Finishes (graph : ImportGraph) (load : Loader) (maxHops maxFiles : Nat) :
    Found → Found → Prop where
  | empty {found : Found} : graph.turn load maxHops maxFiles found = none →
      Finishes graph load maxHops maxFiles found found
  | full {found last : Found} : graph.turn load maxHops maxFiles found = some (last, true) →
      Finishes graph load maxHops maxFiles found last
  | next {found after last : Found} :
      graph.turn load maxHops maxFiles found = some (after, false) →
      Finishes graph load maxHops maxFiles after last →
      Finishes graph load maxHops maxFiles found last

theorem turn_eq_none_iff {found : Found} :
    graph.turn load maxHops maxFiles found = none ↔ found.queue = [] := by
  rw [turn]
  split
  next h => simp [h]
  next file depth rest h =>
    simp only [h, reduceCtorEq, iff_false]
    split <;> simp

/-- A turn takes the first file of the queue and either passes it over or follows its edges. -/
theorem turn_cases {found after : Found} {full : Bool}
    (h : graph.turn load maxHops maxFiles found = some (after, full)) :
    ∃ file depth rest, found.queue = (file, depth) :: rest
      ∧ ((maxHops ≤ depth ∧ full = false ∧ after = { found with queue := rest })
        ∨ (depth < maxHops ∧ follow load maxFiles depth (graph.dependencies file)
            { found with queue := rest } = (after, full))) := by
  rw [turn] at h
  split at h
  · cases h
  next file depth rest hqueue =>
    refine ⟨file, depth, rest, hqueue, ?_⟩
    simp only [] at h
    split at h
    next hfar =>
      cases h
      exact .inl ⟨hfar, rfl, rfl⟩
    next hnear => exact .inr ⟨by omega, Option.some_inj.mp h⟩

theorem drain_succ (fuel : Nat) (found : Found) :
    graph.drain load maxHops maxFiles (fuel + 1) found =
      match graph.turn load maxHops maxFiles found with
      | none => found
      | some (last, true) => last
      | some (after, false) => graph.drain load maxHops maxFiles fuel after := by
  rw [drain, turn]
  rcases hqueue : found.queue with _ | ⟨⟨file, depth⟩, rest⟩
  · rfl
  · by_cases hfar : maxHops ≤ depth
    · simp only [if_pos hfar]
    · simp only [if_neg hfar, followEdges_eq]
      obtain ⟨after, full⟩ := follow load maxFiles depth (graph.dependencies file)
        { found with queue := rest }
      cases full <;> rfl

theorem length_turn {found after : Found} {full : Bool}
    (h : graph.turn load maxHops maxFiles found = some (after, full))
    (hlength : found.related.length ≤ maxFiles) :
    after.related.length ≤ maxFiles
      ∧ after.queue.length + 1 + found.related.length
        = found.queue.length + after.related.length := by
  obtain ⟨file, depth, rest, hqueue, ⟨-, -, rfl⟩ | ⟨-, hfollow⟩⟩ := turn_cases h
  · simp only [hqueue, List.length_cons]
    exact ⟨hlength, trivial⟩
  · obtain ⟨hafter, hbalance⟩ := @length_follow load maxFiles depth (graph.dependencies file)
      { found with queue := rest } hlength
    rw [hfollow] at hafter hbalance
    simp only [hqueue, List.length_cons] at hbalance ⊢
    exact ⟨hafter, by omega⟩

theorem le_length_of_turn {found last : Found}
    (h : graph.turn load maxHops maxFiles found = some (last, true)) :
    maxFiles ≤ last.related.length := by
  obtain ⟨file, depth, rest, -, ⟨-, hfull, -⟩ | ⟨-, hfollow⟩⟩ := turn_cases h
  · cases hfull
  · exact le_length_of_full hfollow

/-- The loop ends before the fuel does, if that is as much as the queue and the places left. -/
theorem finishes_drain {fuel : Nat} {found : Found} (hlength : found.related.length ≤ maxFiles)
    (hfuel : found.queue.length + (maxFiles - found.related.length) ≤ fuel) :
    graph.Finishes load maxHops maxFiles found
      (graph.drain load maxHops maxFiles fuel found) := by
  induction fuel generalizing found with
  | zero =>
    have hqueue : found.queue = [] := List.length_eq_zero_iff.mp (by omega)
    exact .empty (turn_eq_none_iff.mpr hqueue)
  | succ fuel ih =>
    rw [drain_succ]
    cases hturn : graph.turn load maxHops maxFiles found with
    | none => exact .empty hturn
    | some result =>
      obtain ⟨after, full⟩ := result
      obtain ⟨hafter, hbalance⟩ := length_turn hturn hlength
      cases full with
      | true => exact .full hturn
      | false => exact .next hturn (ih hafter (by omega))

theorem Finishes.length_le {found last : Found}
    (h : graph.Finishes load maxHops maxFiles found last)
    (hlength : found.related.length ≤ maxFiles) : last.related.length ≤ maxFiles := by
  induction h with
  | empty _ => exact hlength
  | full hturn => exact (length_turn hturn hlength).1
  | next hturn _ ih => exact ih (length_turn hturn hlength).1

/-! ### Fewer files -/

theorem related_prefix_turn {found after : Found} {full : Bool}
    (h : graph.turn load maxHops maxFiles found = some (after, full)) :
    found.related <+: after.related := by
  obtain ⟨file, depth, rest, -, ⟨-, -, rfl⟩ | ⟨-, hfollow⟩⟩ := turn_cases h
  · exact List.prefix_refl _
  · have hprefix := @related_prefix_follow load maxFiles depth (graph.dependencies file)
      { found with queue := rest }
    rwa [hfollow] at hprefix

theorem Finishes.related_prefix {found last : Found}
    (h : graph.Finishes load maxHops maxFiles found last) : found.related <+: last.related := by
  induction h with
  | empty _ => exact List.prefix_refl _
  | full hturn => exact related_prefix_turn hturn
  | next hturn _ ih => exact (related_prefix_turn hturn).trans ih

/-- As long as a result is not full, it does not matter how many files it may have. -/
theorem follow_of_le {fewer : Nat} (hle : fewer ≤ maxFiles) {edges : List (String × Path)}
    {found last : Found} (h : follow load fewer depth edges found = (last, false)) :
    follow load maxFiles depth edges found = (last, false) := by
  induction edges generalizing found with
  | nil => exact h
  | cons edge edges ih =>
    rw [follow] at h ⊢
    split at h
    · cases h
    next hroom => rw [if_neg (by omega), ih h]

/-- A result that is full is the beginning of one that may have more files. -/
theorem related_prefix_of_full {fewer : Nat} (hle : fewer ≤ maxFiles)
    {edges : List (String × Path)} {found last : Found}
    (h : follow load fewer depth edges found = (last, true)) :
    last.related <+: (follow load maxFiles depth edges found).1.related := by
  induction edges generalizing found with
  | nil => cases h
  | cons edge edges ih =>
    rw [follow] at h
    split at h
    · cases h
      exact related_prefix_follow _ _
    next hroom =>
      rw [follow, if_neg (by omega)]
      exact ih h

theorem turn_of_le {fewer : Nat} (hle : fewer ≤ maxFiles) {found after : Found}
    (h : graph.turn load maxHops fewer found = some (after, false)) :
    graph.turn load maxHops maxFiles found = some (after, false) := by
  obtain ⟨file, depth, rest, hqueue, ⟨hfar, -, rfl⟩ | ⟨hnear, hfollow⟩⟩ := turn_cases h
  · simp only [turn, hqueue, if_pos hfar]
  · simp only [turn, hqueue, if_neg (Nat.not_le.mpr hnear), follow_of_le hle hfollow]

theorem related_prefix_turn_of_full {fewer : Nat} (hle : fewer ≤ maxFiles) {found last : Found}
    (h : graph.turn load maxHops fewer found = some (last, true)) :
    ∃ after full, graph.turn load maxHops maxFiles found = some (after, full)
      ∧ last.related <+: after.related := by
  obtain ⟨file, depth, rest, hqueue, ⟨-, hfull, -⟩ | ⟨hnear, hfollow⟩⟩ := turn_cases h
  · cases hfull
  · have hprefix := related_prefix_of_full hle hfollow
    cases hall : follow load maxFiles depth (graph.dependencies file)
      { found with queue := rest } with
    | mk after full =>
      rw [hall] at hprefix
      refine ⟨after, full, ?_, hprefix⟩
      simp only [turn, hqueue, if_neg (Nat.not_le.mpr hnear), hall]

/-- The loop goes on as its turn says. -/
theorem Finishes.after_turn {found after last : Found} {full : Bool}
    (h : graph.Finishes load maxHops maxFiles found last)
    (hturn : graph.turn load maxHops maxFiles found = some (after, full)) :
    (full = true ∧ last = after)
      ∨ (full = false ∧ graph.Finishes load maxHops maxFiles after last) := by
  cases h with
  | empty hnone => rw [hnone] at hturn; cases hturn
  | full hfull =>
    rw [hfull] at hturn
    cases hturn
    exact .inl ⟨rfl, rfl⟩
  | next hnext hrest =>
    rw [hnext] at hturn
    cases hturn
    exact .inr ⟨rfl, hrest⟩

/-- If the loop may find fewer files, it finds the first ones of those it would find. -/
theorem Finishes.take_related {fewer : Nat} (hle : fewer ≤ maxFiles) {found last all : Found}
    (h : graph.Finishes load maxHops fewer found last)
    (hall : graph.Finishes load maxHops maxFiles found all)
    (hlength : found.related.length ≤ fewer) : last.related = all.related.take fewer := by
  induction h with
  | @empty found hturn =>
    -- The queue is empty, however many files there may be.
    have hnone : graph.turn load maxHops maxFiles found = none :=
      turn_eq_none_iff.mpr (turn_eq_none_iff.mp hturn)
    cases hall with
    | empty _ => exact (List.take_of_length_le hlength).symm
    | full hsome => rw [hnone] at hsome; cases hsome
    | next hsome _ => rw [hnone] at hsome; cases hsome
  | @full found last hturn =>
    -- What is found from here on is put behind the files of the full result.
    obtain ⟨after, full, hturn', hprefix⟩ := related_prefix_turn_of_full hle hturn
    have hlast : last.related.length = fewer :=
      Nat.le_antisymm (length_turn hturn hlength).1 (le_length_of_turn hturn)
    have hrest : last.related <+: all.related := by
      obtain ⟨-, rfl⟩ | ⟨-, hrest⟩ := hall.after_turn hturn'
      · exact hprefix
      · exact hprefix.trans hrest.related_prefix
    rw [← hlast]
    exact List.prefix_iff_eq_take.mp hrest
  | next hturn _ ih =>
    obtain ⟨hfull, -⟩ | ⟨-, hrest⟩ := hall.after_turn (turn_of_le hle hturn)
    · cases hfull
    · exact ih hrest (length_turn hturn hlength).1

end SourceRetrieval.ImportGraph
