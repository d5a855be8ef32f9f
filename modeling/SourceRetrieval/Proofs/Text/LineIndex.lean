/-
Looking up the line of an offset and the bounds of a line undo each other.

* `getElem_breaks_lt_iff` — the newlines before an offset are the first ones, so their number tells
  on which side of the offset each newline is;
* `countP_breaksFrom` — they are the newlines among the bytes before the offset;
* `lineStart_le_iff` and `le_lineEnd_iff` — a line begins at or before an offset if its number is at
  most that of the line of the offset, and ends at or behind it if its number is at least that;
* `map_lineText` — what lies between the bounds of the lines are the pieces between the newlines;
* `Tiles` and `lines_tile` — so each offset is on one line, and the lines, joined with newlines, are
  the text.

Design notes: of the newlines nothing is used but their number and their order.
-/
import SourceRetrieval.Proofs.Text.Bytes
import SourceRetrieval.Proofs.Text.Lines
import SourceRetrieval.Proofs.Text.Slice

namespace SourceRetrieval.Text

variable {cs : List Char} {start offset line : Nat}

/-! ### Newlines before an offset -/

theorem pairwise_breaksFrom (start : Nat) (cs : List Char) :
    (breaksFrom start cs).Pairwise (· < ·) := by
  induction cs generalizing start with
  | nil => exact .nil
  | cons c cs ih =>
    rw [breaksFrom]
    split
    · refine List.pairwise_cons.mpr ⟨fun newline h => ?_, ih (start + 1)⟩
      have hbounds := bounds_of_mem_breaksFrom h
      omega
    · exact ih (start + c.utf8Size)

/-- In an increasing list the numbers below a bound come first. -/
theorem getElem_lt_iff_lt_countP {ns : List Nat} (h : ns.Pairwise (· < ·)) {i : Nat}
    (hi : i < ns.length) (bound : Nat) : ns[i] < bound ↔ i < ns.countP (· < bound) := by
  induction ns generalizing i with
  | nil => cases hi
  | cons n ns ih =>
    obtain ⟨hfirst, hlater⟩ := List.pairwise_cons.mp h
    by_cases hn : n < bound
    · have hcount : (n :: ns).countP (· < bound) = ns.countP (· < bound) + 1 :=
        List.countP_cons_of_pos (by simpa using hn)
      rw [hcount]
      cases i with
      | zero => exact iff_of_true hn (Nat.zero_lt_succ _)
      | succ i =>
        rw [List.getElem_cons_succ, Nat.succ_lt_succ_iff]
        exact ih hlater (Nat.lt_of_succ_lt_succ hi)
    · -- If the first one is not below the bound, none is.
      have hall : ∀ m ∈ n :: ns, bound ≤ m := by
        refine List.forall_mem_cons.mpr ⟨Nat.le_of_not_lt hn, fun m hm => ?_⟩
        have hlt := hfirst m hm
        omega
      have hnone : (n :: ns).countP (· < bound) = 0 := by
        refine List.countP_eq_zero.mpr fun m hm => ?_
        rw [decide_eq_true_eq]
        exact Nat.not_lt_of_le (hall m hm)
      rw [hnone]
      exact iff_of_false (Nat.not_lt_of_le (hall _ (List.getElem_mem hi))) (Nat.not_lt_zero i)

theorem newline_not_mem_utf8EncodeChar {c : Char} (h : c ≠ '\n') :
    0x0a ∉ String.utf8EncodeChar c := by
  intro hmem
  by_cases hc : c.toNat < 128
  · rw [utf8EncodeChar_of_lt hc, List.mem_singleton, ← UInt8.toNat_inj, toNat_asciiByte hc] at hmem
    exact h (Char.toNat_inj.mp hmem.symm)
  · exact absurd (le_of_mem_utf8EncodeChar (Nat.le_of_not_lt hc) hmem) (by decide)

/-- The newlines before an offset are the newlines among the bytes before it. -/
theorem countP_breaksFrom (start n : Nat) (cs : List Char) :
    (breaksFrom start cs).countP (· < start + n) = ((utf8 cs).take n).count 0x0a := by
  induction cs generalizing start n with
  | nil => rw [utf8_nil, List.take_nil]; rfl
  | cons c cs ih =>
    have hpos := c.utf8Size_pos
    -- What comes behind the first character counts from its end on.
    have hlater : (breaksFrom (start + c.utf8Size) cs).countP (· < start + n)
        = ((utf8 cs).take (n - c.utf8Size)).count 0x0a := by
      by_cases hn : c.utf8Size ≤ n
      · rw [← ih (start + c.utf8Size), Nat.add_assoc, Nat.add_sub_cancel' hn]
      · rw [Nat.sub_eq_zero_of_le (Nat.le_of_not_le hn), List.take_zero, List.count_nil,
          List.countP_eq_zero]
        intro newline h
        have hbounds := bounds_of_mem_breaksFrom h
        rw [decide_eq_true_eq]
        omega
    rw [utf8_cons, List.take_append, List.count_append, String.length_utf8EncodeChar, ← hlater,
      breaksFrom]
    split
    next hc =>
      subst hc
      have hbyte : String.utf8EncodeChar '\n' = [0x0a] := rfl
      have hsize : '\n'.utf8Size = 1 := rfl
      rw [hbyte, hsize]
      cases n with
      | zero => rw [List.countP_cons_of_neg (by simp), List.take_zero, List.count_nil, Nat.zero_add]
      | succ n =>
        rw [List.countP_cons_of_pos (by simp), List.take_succ_cons, List.count_cons_self,
          List.take_nil, List.count_nil, Nat.zero_add, Nat.add_comm]
    next hc =>
      have hnone : ((String.utf8EncodeChar c).take n).count 0x0a = 0 :=
        List.count_eq_zero.mpr fun h => newline_not_mem_utf8EncodeChar hc (List.mem_of_mem_take h)
      rw [hnone, Nat.zero_add]

namespace LineIndex

theorem lineOf_eq (cs : List Char) (offset : Nat) :
    (ofChars cs).lineOf offset = 1 + ((utf8 cs).take offset).count 0x0a := by
  have hcount := countP_breaksFrom 0 offset cs
  rw [Nat.zero_add] at hcount
  rw [← hcount, Nat.add_comm]
  rfl

theorem one_le_lineOf (index : LineIndex) (offset : Nat) : 1 ≤ index.lineOf offset :=
  Nat.le_add_left 1 _

theorem lineOf_le_lineCount (index : LineIndex) (offset : Nat) :
    index.lineOf offset ≤ index.lineCount :=
  Nat.succ_le_succ List.countP_le_length

/-- A newline comes before an offset if it ends a line before that of the offset. -/
theorem getElem_breaks_lt_iff {i : Nat} (hi : i < (ofChars cs).breaks.length) (offset : Nat) :
    (ofChars cs).breaks[i] < offset ↔ i + 1 < (ofChars cs).lineOf offset :=
  (getElem_lt_iff_lt_countP (pairwise_breaksFrom 0 cs) hi offset).trans Nat.succ_lt_succ_iff.symm

/-! ### Bounds of lines -/

theorem lineStart_succ_succ {index : LineIndex} {i : Nat} (hi : i < index.breaks.length) :
    index.lineStart (i + 2) = index.breaks[i] + 1 := by
  rw [lineStart, if_neg (by omega), Nat.add_sub_cancel, List.getElem?_eq_getElem hi]

theorem lineEnd_succ {index : LineIndex} {i : Nat} (hi : i < index.breaks.length) :
    index.lineEnd (i + 1) = index.breaks[i] := by
  rw [lineEnd, Nat.add_sub_cancel, List.getElem?_eq_getElem hi, Option.getD_some]

theorem lineEnd_of_lineCount_le {index : LineIndex} (h : index.lineCount ≤ line) :
    index.lineEnd line = index.length := by
  rw [lineEnd, List.getElem?_eq_none (Nat.le_sub_of_add_le h), Option.getD_none]

theorem lineStart_of_lineCount_lt {index : LineIndex} (h : index.lineCount < line) :
    index.lineStart line = index.length := by
  rw [lineCount] at h
  rw [lineStart, if_neg (by omega), List.getElem?_eq_none (by omega)]

theorem lineStart_succ {index : LineIndex} (hfirst : 1 ≤ line) (hlast : line < index.lineCount) :
    index.lineStart (line + 1) = index.lineEnd line + 1 := by
  obtain ⟨i, rfl⟩ := Nat.exists_eq_add_of_le' hfirst
  have hi : i < index.breaks.length := Nat.lt_of_succ_lt_succ hlast
  rw [lineStart_succ_succ hi, lineEnd_succ hi]

theorem lineStart_le_iff (hfirst : 1 ≤ line) (hlast : line ≤ (ofChars cs).lineCount)
    (offset : Nat) : (ofChars cs).lineStart line ≤ offset ↔ line ≤ (ofChars cs).lineOf offset := by
  obtain ⟨i, rfl⟩ := Nat.exists_eq_add_of_le' hfirst
  cases i with
  | zero =>
    rw [Nat.zero_add, lineStart_one]
    exact iff_of_true (Nat.zero_le offset) (one_le_lineOf _ offset)
  | succ i =>
    have hi : i < (ofChars cs).breaks.length := Nat.le_of_succ_le_succ hlast
    rw [lineStart_succ_succ hi, Nat.succ_le_iff, getElem_breaks_lt_iff hi]
    rfl

theorem le_lineEnd_iff (hfirst : 1 ≤ line) (hlast : line ≤ (ofChars cs).lineCount)
    (hoffset : offset ≤ byteLength cs) :
    offset ≤ (ofChars cs).lineEnd line ↔ (ofChars cs).lineOf offset ≤ line := by
  rcases Nat.lt_or_eq_of_le hlast with hlt | rfl
  · obtain ⟨i, rfl⟩ := Nat.exists_eq_add_of_le' hfirst
    have hi : i < (ofChars cs).breaks.length := Nat.lt_of_succ_lt_succ hlt
    rw [lineEnd_succ hi, ← Nat.not_lt, getElem_breaks_lt_iff hi, Nat.not_lt]
  · rw [lineEnd_of_lineCount_le (Nat.le_refl _)]
    exact iff_of_true hoffset (lineOf_le_lineCount _ offset)

/-- The line of an offset is the one whose bounds the offset lies between. -/
theorem between_iff (hfirst : 1 ≤ line) (hlast : line ≤ (ofChars cs).lineCount)
    (hoffset : offset ≤ byteLength cs) :
    (ofChars cs).lineStart line ≤ offset ∧ offset ≤ (ofChars cs).lineEnd line
      ↔ line = (ofChars cs).lineOf offset := by
  rw [lineStart_le_iff hfirst hlast, le_lineEnd_iff hfirst hlast hoffset]
  exact ⟨fun h => Nat.le_antisymm h.1 h.2, fun h => ⟨Nat.le_of_eq h, Nat.le_of_eq h.symm⟩⟩

/-! ### The lines of a text -/

theorem onBoundary_lineStart (cs : List Char) (line : Nat) :
    OnBoundary cs ((ofChars cs).lineStart line) := by
  obtain ⟨front, text, back, hcs, -, hstart, -⟩ := exists_line cs line
  rw [hstart, hcs, List.append_assoc]
  exact onBoundary_append _ _

theorem onBoundary_lineEnd (cs : List Char) (line : Nat) :
    OnBoundary cs ((ofChars cs).lineEnd line) := by
  obtain ⟨front, text, back, hcs, -, -, hend, -⟩ := exists_line cs line
  rw [hend, hcs, ← byteLength_append]
  exact onBoundary_append _ _

theorem lineStart_le_lineEnd (cs : List Char) (line : Nat) :
    (ofChars cs).lineStart line ≤ (ofChars cs).lineEnd line := by
  obtain ⟨front, text, back, -, -, hstart, hend, -⟩ := exists_line cs line
  rw [hstart, hend]
  exact Nat.le_add_right _ _

/-- The text between the bounds of a line. -/
def lineText (cs : List Char) (line : Nat) : List Char :=
  cut ((ofChars cs).lineStart line) ((ofChars cs).lineEnd line) cs

theorem lineText_eq_getElem {i : Nat} (hi : i < (lineTexts cs).length) :
    lineText cs (i + 1) = (lineTexts cs)[i] := by
  have hcut := cut_lines (Nat.le_add_left 1 i) (Nat.le_refl _) (by rwa [← length_lineTexts])
  rw [lineText, hcut, Nat.add_sub_cancel, Nat.add_sub_cancel_left,
    List.drop_eq_getElem_cons hi, List.take_succ_cons, List.take_zero, joinLines,
    List.intercalate_singleton]

theorem map_lineText (cs : List Char) :
    (List.range' 1 (ofChars cs).lineCount).map (lineText cs) = lineTexts cs := by
  refine List.ext_getElem ?_ fun i _ hi => ?_
  · rw [List.length_map, List.length_range', length_lineTexts]
  · rw [List.getElem_map, List.getElem_range', Nat.one_mul, Nat.add_comm, lineText_eq_getElem hi]

theorem newline_not_mem_lineText (cs : List Char) (line : Nat) : '\n' ∉ lineText cs line := by
  obtain ⟨front, text, back, hcs, htext, hstart, hend, -⟩ := exists_line cs line
  rwa [lineText, hstart, hend, hcs, cut_append]

/-- The lines of an index tile a text: each offset up to the end of the text is on the line whose
number is one more than the number of newlines among the bytes before it, and on no other one.  The
lines begin with the text, follow each other with a newline between them, and end with the text:
joined with newlines they are the text again.  Behind the last line there is nothing. -/
structure Tiles (index : LineIndex) (cs : List Char) : Prop where
  lineOf : ∀ offset ≤ byteLength cs,
    index.lineOf offset = 1 + ((utf8 cs).take offset).count 0x0a
      ∧ 1 ≤ index.lineOf offset ∧ index.lineOf offset ≤ index.lineCount
  between : ∀ offset ≤ byteLength cs, ∀ line, 1 ≤ line → line ≤ index.lineCount →
    (index.lineStart line ≤ offset ∧ offset ≤ index.lineEnd line ↔ line = index.lineOf offset)
  first : index.lineStart 1 = 0
  last : index.lineEnd index.lineCount = byteLength cs
  next : ∀ line, 1 ≤ line → line < index.lineCount →
    index.lineStart (line + 1) = index.lineEnd line + 1
  placed : ∀ line, OnBoundary cs (index.lineStart line) ∧ OnBoundary cs (index.lineEnd line)
    ∧ index.lineStart line ≤ index.lineEnd line
  one : ∀ line, '\n' ∉ cut (index.lineStart line) (index.lineEnd line) cs
  joined : ['\n'].intercalate ((List.range' 1 index.lineCount).map fun line =>
    cut (index.lineStart line) (index.lineEnd line) cs) = cs
  behind : ∀ line, index.lineCount < line →
    index.lineStart line = byteLength cs ∧ index.lineEnd line = byteLength cs

/-- Looking up the line of an offset and the bounds of a line are inverse. -/
theorem lines_tile (cs : List Char) : (ofChars cs).Tiles cs where
  lineOf offset _ := ⟨lineOf_eq cs offset, one_le_lineOf _ offset, lineOf_le_lineCount _ offset⟩
  between _ hoffset _ hfirst hlast := between_iff hfirst hlast hoffset
  first := lineStart_one _
  last := lineEnd_of_lineCount_le (Nat.le_refl _)
  next _ hfirst hlast := lineStart_succ hfirst hlast
  placed line :=
    ⟨onBoundary_lineStart cs line, onBoundary_lineEnd cs line, lineStart_le_lineEnd cs line⟩
  one := newline_not_mem_lineText cs
  joined := (congrArg joinLines (map_lineText cs)).trans (joinLines_lineTexts cs)
  behind _ hline :=
    ⟨lineStart_of_lineCount_lt hline, lineEnd_of_lineCount_le (Nat.le_of_lt hline)⟩

/-- The last line is empty, and the second one holds a character of two bytes. -/
example : (ofText "a\né\n").breaks = [1, 4] ∧ (ofText "a\né\n").lineOf 3 = 2
    ∧ (ofText "a\né\n").lineStart 3 = 5 ∧ (ofText "a\né\n").lineEnd 3 = 5 := by decide

end LineIndex

end SourceRetrieval.Text
