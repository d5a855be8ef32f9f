/-
Where matches begin and end.

* `Match.IsPlaced` says that the groups of a match begin and end between characters of the text,
  and `Pattern.ReportsPlaced` that a pattern reports no other matches;
* `reportsPlaced_toPattern` — so it is with a pattern that a machine searches for.

Design notes: groups are read off the table of offsets of a subject, which holds boundaries and
nothing else, whatever a search has remembered.
-/
import SourceRetrieval.Pattern.Matching
import SourceRetrieval.Proofs.Text.Slice

namespace SourceRetrieval

open Text

namespace Pattern

/-- A group begins and ends between characters of the text. -/
structure Group.IsPlaced (group : Group) (cs : List Char) : Prop where
  start : OnBoundary cs group.start
  stop : OnBoundary cs group.stop

/-- The groups of a match begin and end between characters of the text. -/
structure Match.IsPlaced (m : Match) (cs : List Char) : Prop where
  whole : m.whole.IsPlaced cs
  named : ∀ entry ∈ m.named, entry.2.IsPlaced cs

variable {machine : Machine} {subject : Subject} {cs : List Char} {m : Match}

theorem Match.IsPlaced.of_group? (h : m.IsPlaced cs) {name : String} {group : Group}
    (hgroup : m.group? name = some group) : group.IsPlaced cs := by
  obtain ⟨front, back, hnamed, -⟩ := List.lookup_eq_some_iff.mp hgroup
  refine h.named (name, group) ?_
  rw [hnamed]
  exact List.mem_append_right _ List.mem_cons_self

/-! ### Offsets of a subject -/

/-- What has been read ends at the offset pushed last, so the offsets of the rest are boundaries
too. -/
theorem onBoundary_of_mem_foldl {before after : List Char} {table : Array Nat}
    (htable : ∀ x ∈ table, OnBoundary (before ++ after) x) :
    ∀ x ∈ (after.foldl (fun (table, n) c => (table.push (n + c.utf8Size), n + c.utf8Size))
      (table, byteLength before)).1, OnBoundary (before ++ after) x := by
  induction after generalizing before table with
  | nil => exact htable
  | cons c after ih =>
    have hsplit : before ++ c :: after = (before ++ [c]) ++ after := by
      rw [List.append_assoc, List.singleton_append]
    have hend : byteLength (before ++ [c]) = byteLength before + c.utf8Size := by
      rw [byteLength_append, byteLength_cons, byteLength_nil, Nat.add_zero]
    have hlater := @ih (before ++ [c]) (table.push (byteLength (before ++ [c])))
    rw [hend, ← hsplit] at hlater
    refine hlater fun x hx => ?_
    rcases Array.mem_push.mp hx with hx | rfl
    · exact htable x hx
    · rw [hsplit, ← hend]
      exact onBoundary_append _ _

/-- The table of a text holds offsets between its characters. -/
theorem onBoundary_of_mem_offsets {offset : Nat} (h : offset ∈ (Subject.ofChars cs).offsets) :
    OnBoundary cs offset := by
  refine @onBoundary_of_mem_foldl [] cs #[0] (fun x hx => ?_) offset h
  obtain rfl : x = 0 := by simpa using hx
  exact onBoundary_append [] cs

theorem isPlaced_group (cs : List Char) (start stop : Nat) :
    ((Subject.ofChars cs).group start stop).IsPlaced cs := by
  have hentry : ∀ k, OnBoundary cs ((Subject.ofChars cs).offsets.getD k 0) := by
    intro k
    rw [Array.getD_eq_getD_getElem?]
    cases hk : (Subject.ofChars cs).offsets[k]? with
    | none => exact onBoundary_append [] cs
    | some offset => exact onBoundary_of_mem_offsets (Array.mem_of_getElem? hk)
  exact ⟨hentry start, hentry stop⟩

theorem isPlaced_of_slotGroup? {slots : Slots} {index : Nat} {group : Group}
    (h : (Subject.ofChars cs).slotGroup? slots index = some group) : group.IsPlaced cs := by
  simp only [Subject.slotGroup?, Option.bind_eq_bind, Option.bind_eq_some_iff] at h
  obtain ⟨start, -, stop, -, h⟩ := h
  cases h
  exact isPlaced_group cs start stop

/-! ### Matches -/

theorem isPlaced_toMatch (machine : Machine) (cs : List Char) (slots : Slots) :
    (machine.toMatch (Subject.ofChars cs) slots).IsPlaced cs where
  whole := by
    rw [Machine.toMatch]
    cases hwhole : (Subject.ofChars cs).slotGroup? slots 0 with
    | none => exact isPlaced_group cs 0 0
    | some group => exact isPlaced_of_slotGroup? hwhole
  named entry hentry := by
    obtain ⟨⟨name, index⟩, -, hgroup⟩ := List.mem_filterMap.mp hentry
    obtain ⟨group, hslots, rfl⟩ := Option.map_eq_some_iff.mp hgroup
    exact isPlaced_of_slotGroup? hslots

theorem exists_of_mem_matchesFrom {fuel position : Nat} {lastEnd : Option Nat}
    (h : m ∈ machine.matchesFrom subject fuel position lastEnd) :
    ∃ slots, m = machine.toMatch subject slots := by
  induction fuel generalizing position lastEnd with
  | zero => cases h
  | succ fuel ih =>
    rw [Machine.matchesFrom] at h
    simp only at h
    split at h
    · cases h
    · split at h
      · cases h
      next slots _ =>
        split at h
        · exact ih h
        · rcases List.mem_cons.mp h with rfl | h
          · exact ⟨slots, rfl⟩
          · exact ih h

end Pattern

/-- The matches that a pattern reports in a text begin and end between its characters. -/
def Pattern.ReportsPlaced (pattern : Pattern) : Prop :=
  ∀ cs, ∀ m ∈ pattern.findAll cs, m.IsPlaced cs

theorem Pattern.reportsPlaced_toPattern (machine : Machine) : machine.toPattern.ReportsPlaced := by
  intro cs m hm
  obtain ⟨slots, rfl⟩ := exists_of_mem_matchesFrom hm
  exact isPlaced_toMatch machine cs slots

end SourceRetrieval
