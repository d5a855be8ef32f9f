/-
References are found where the name stands.

* `MatchRange.Covers` — a range holds a text of the content and is on the line of its start;
* `covers_of_mem_findReferences` — a reference covers the name and is on no line that
  declares it;
* `pairwise_findReferences` — references come in increasing order.
-/
import SourceRetrieval.Analysis
import SourceRetrieval.Proofs.Text.Lines
import SourceRetrieval.Proofs.Text.Occurrences
import SourceRetrieval.Ranking.References

namespace SourceRetrieval

open Text

/-- The text stands between the ends of the range, which is on the line of its start. -/
def MatchRange.Covers (r : MatchRange) (content found : List Char) : Prop :=
  ∃ before after, content = before ++ found ++ after ∧ r.start = byteLength before
    ∧ r.stop = r.start + byteLength found ∧ r.line = before.count '\n' + 1

theorem MatchRange.Covers.line_eq {r : MatchRange} {content found : List Char}
    (h : r.Covers content found) : r.line = (takeBytes r.start content).count '\n' + 1 := by
  obtain ⟨before, after, rfl, hstart, -, hline⟩ := h
  rw [hline, hstart, List.append_assoc, takeBytes_append]

theorem MatchRange.Covers.stop_eq {r : MatchRange} {content found : List Char}
    (h : r.Covers content found) : r.stop = r.start + byteLength found := by
  obtain ⟨before, after, -, -, hstop, -⟩ := h
  exact hstop

theorem MatchRange.Covers.cut_eq {r : MatchRange} {content found : List Char}
    (h : r.Covers content found) : cut r.start r.stop content = found := by
  obtain ⟨before, after, rfl, hstart, hstop, -⟩ := h
  rw [hstop, hstart, cut_append]

namespace Ranking

/-- Where a reference stands. -/
def Reference.range (r : Reference) : MatchRange := ⟨r.start, r.stop, r.line⟩

variable {name front line : List Char} {declared : List Nat} {r : Reference}

theorem lineReferences_spec (name : List Char) (hline : '\n' ∉ line.dropLast) (front back) :
    let references := lineReferences name (front.count '\n' + 1) (byteLength front) line
    (∀ r ∈ references, r.range.Covers (front ++ (line ++ back)) name
        ∧ r.line = front.count '\n' + 1
        ∧ byteLength front ≤ r.start ∧ r.start < byteLength front + byteLength line)
      ∧ references.Pairwise fun a b => a.start < b.start := by
  intro references
  constructor
  · intro r hr
    obtain ⟨offset, hoffset, rfl⟩ := List.mem_map.mp hr
    obtain ⟨hname, before, after, rfl, rfl⟩ :=
      standsAt_of_mem_occurrences ((sublist_wordOccurrences name line).mem hoffset)
    have hpos : byteLength name ≠ 0 := fun h => hname (byteLength_eq_zero_iff.mp h)
    -- The newline that ends the line is not before the name, which is not empty.
    have hbefore : '\n' ∉ before := by
      rw [List.append_assoc, List.dropLast_append_of_ne_nil (by simp [hname])] at hline
      exact fun hmem => hline (List.mem_append_left _ hmem)
    refine ⟨⟨front ++ before, after ++ back, ?_, ?_, rfl, ?_⟩, rfl, Nat.le_add_right _ _, ?_⟩
    · simp only [List.append_assoc]
    · exact (byteLength_append front before).symm
    · show front.count '\n' + 1 = _
      rw [List.count_append, List.count_eq_zero.mpr hbefore, Nat.add_zero]
    · show byteLength front + byteLength before < _
      rw [byteLength_append, byteLength_append]
      omega
  · have hoffsets : (wordOccurrences name line).Pairwise (· < ·) :=
      (pairwise_occurrences name line).sublist (sublist_wordOccurrences name line)
    exact List.pairwise_map.mpr (hoffsets.imp fun h => Nat.add_lt_add_left h _)

/-- References to `name` from an offset on, outside the lines that declare it and in order. -/
structure AreReferences (content name : List Char) (declared : List Nat) (start : Nat)
    (references : List Reference) : Prop where
  covers : ∀ r ∈ references, r.range.Covers content name
  outside : ∀ r ∈ references, r.line ∉ declared
  le_start : ∀ r ∈ references, start ≤ r.start
  inOrder : references.Pairwise fun a b => a.start < b.start

/-- The references on one more line come before those on the lines after it. -/
theorem AreReferences.cons_line {front back : List Char} {later : List Reference}
    (h : AreReferences (front ++ (line ++ back)) name declared (byteLength (front ++ line)) later)
    (hline : '\n' ∉ line.dropLast) :
    AreReferences (front ++ (line ++ back)) name declared (byteLength front)
      ((if declared.contains (front.count '\n' + 1) then []
        else lineReferences name (front.count '\n' + 1) (byteLength front) line) ++ later) := by
  have hlater : ∀ r ∈ later, byteLength front + byteLength line ≤ r.start := by
    intro r hr
    rw [← byteLength_append]
    exact h.le_start r hr
  by_cases hdeclared : declared.contains (front.count '\n' + 1) = true
  · rw [if_pos hdeclared]
    exact ⟨h.covers, h.outside, fun r hr => by have := hlater r hr; omega, h.inOrder⟩
  · obtain ⟨hhere, hordered⟩ := lineReferences_spec name hline front back
    rw [if_neg hdeclared]
    refine ⟨fun r hr => ?_, fun r hr => ?_, fun r hr => ?_, ?_⟩
    · rcases List.mem_append.mp hr with hr | hr
      · exact (hhere r hr).1
      · exact h.covers r hr
    · rcases List.mem_append.mp hr with hr | hr
      · rw [(hhere r hr).2.1]
        exact fun hmem => hdeclared (List.contains_iff_mem.mpr hmem)
      · exact h.outside r hr
    · rcases List.mem_append.mp hr with hr | hr
      · exact (hhere r hr).2.2.1
      · have hle := hlater r hr
        omega
    · refine List.pairwise_append.mpr ⟨hordered, h.inOrder, fun a ha b hb => ?_⟩
      have hlt := (hhere a ha).2.2.2
      have hle := hlater b hb
      omega

theorem areReferences_referencesFrom (name : List Char) (declared : List Nat)
    (front cs : List Char) :
    AreReferences (front ++ cs) name declared (byteLength front)
      (referencesFrom name declared (front.count '\n' + 1) (byteLength front) (lineChunks cs)) := by
  have hnone : ∀ content start, AreReferences content name declared start [] :=
    fun _ _ => ⟨nofun, nofun, nofun, .nil⟩
  induction cs using line_induction generalizing front with
  | last cs hcs =>
    by_cases hempty : cs = []
    · rw [hempty]
      exact hnone _ _
    · have hline : '\n' ∉ cs.dropLast := fun hmem => hcs ((List.dropLast_prefix cs).subset hmem)
      have hlast := (hnone (front ++ (cs ++ [])) (byteLength (front ++ cs))).cons_line hline
      rw [List.append_nil cs] at hlast
      rw [lineChunks_of_not_mem hcs hempty]
      exact hlast
  | line body rest hbody ih =>
    have hline : '\n' ∉ (body ++ ['\n']).dropLast := by rwa [List.dropLast_concat]
    have hcs : body ++ '\n' :: rest = (body ++ ['\n']) ++ rest := by
      rw [List.append_assoc, List.singleton_append]
    have hlater := ih (front ++ (body ++ ['\n']))
    rw [count_append_line hbody, List.append_assoc, byteLength_append front] at hlater
    rw [lineChunks_append hbody, hcs]
    refine AreReferences.cons_line ?_ hline
    rwa [byteLength_append front]

theorem areReferences_findReferences (content name : List Char) (declared : List Nat) :
    AreReferences content name declared 0 (findReferences content name declared) := by
  rw [findReferences]
  split
  · exact ⟨nofun, nofun, nofun, .nil⟩
  · exact areReferences_referencesFrom name declared [] content

end Ranking

end SourceRetrieval
