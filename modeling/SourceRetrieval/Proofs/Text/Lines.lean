/-
Where the lines of a text are.

* `length_breaksFrom` — there are as many breaks as newlines;
* `lineOf_byteLength` — the line of an offset is one more than the number of newlines
  before it;
* `exists_line` — what lies between the ends of a line is a part of the text without
  newline, and that line's;
* `lineChunks_append` — the first of the lines is what comes up to the first newline, and
  `line_induction` is induction on a text line by line;
* `joinLines_lineTexts` and `lineTexts_joinLines` — to cut a text into lines and to join lines undo
  each other;
* `cut_lines` — what lies between the beginning of a line and the end of a later one are the
  lines from the one to the other, joined with newlines.
-/
import SourceRetrieval.Proofs.Text.Offset
import SourceRetrieval.Proofs.Text.Split
import SourceRetrieval.Text.Lines

namespace SourceRetrieval.Text

variable {cs body : List Char}

/-! ### Breaks -/

theorem length_breaksFrom (start : Nat) (cs : List Char) :
    (breaksFrom start cs).length = cs.count '\n' := by
  induction cs generalizing start with
  | nil => rfl
  | cons c cs ih =>
    rw [breaksFrom]
    split
    next h => rw [h, List.length_cons, ih, List.count_cons_self]
    next h => rw [ih, List.count_cons_of_ne h]

theorem breaksFrom_append (start : Nat) (before after : List Char) :
    breaksFrom start (before ++ after)
      = breaksFrom start before ++ breaksFrom (start + byteLength before) after := by
  induction before generalizing start with
  | nil => rfl
  | cons c before ih =>
    rw [List.cons_append, breaksFrom, breaksFrom, byteLength_cons, ← Nat.add_assoc]
    split
    next h =>
      have hsize : c.utf8Size = 1 := by rw [h]; rfl
      rw [ih, hsize, List.cons_append]
    next h => rw [ih]

theorem bounds_of_mem_breaksFrom {start offset : Nat} (h : offset ∈ breaksFrom start cs) :
    start ≤ offset ∧ offset < start + byteLength cs := by
  induction cs generalizing start with
  | nil => cases h
  | cons c cs ih =>
    have hc := c.utf8Size_pos
    rw [breaksFrom] at h
    rw [byteLength_cons]
    split at h
    next hnewline =>
      have hsize : c.utf8Size = 1 := by rw [hnewline]; rfl
      rcases List.mem_cons.mp h with rfl | h
      · omega
      · have hlater := ih h
        omega
    next =>
      have hlater := ih h
      omega

theorem lineOf_byteLength (before after : List Char) :
    (LineIndex.ofChars (before ++ after)).lineOf (byteLength before) = before.count '\n' + 1 := by
  have hbefore : (breaksFrom 0 before).countP (· < byteLength before) = before.count '\n' := by
    rw [← length_breaksFrom 0, List.countP_eq_length]
    intro offset h
    have hbounds := bounds_of_mem_breaksFrom h
    rw [decide_eq_true_eq]
    omega
  have hafter : (breaksFrom (0 + byteLength before) after).countP (· < byteLength before) = 0 := by
    rw [List.countP_eq_zero]
    intro offset h
    have hbounds := bounds_of_mem_breaksFrom h
    rw [decide_eq_true_eq]
    omega
  show (breaksFrom 0 (before ++ after)).countP (· < byteLength before) + 1 = _
  rw [breaksFrom_append, List.countP_append, hbefore, hafter]

theorem breaksFrom_eq_nil {start : Nat} (h : '\n' ∉ cs) : breaksFrom start cs = [] := by
  rw [← List.length_eq_zero_iff, length_breaksFrom, List.count_eq_zero]
  exact h

theorem breaksFrom_append_newline {start : Nat} (h : '\n' ∉ body) (after : List Char) :
    breaksFrom start (body ++ '\n' :: after)
      = (start + byteLength body) :: breaksFrom (start + byteLength body + 1) after := by
  rw [breaksFrom_append, breaksFrom_eq_nil h, List.nil_append, breaksFrom, if_pos rfl]

/-! ### Lines by number -/

theorem exists_newline {k : Nat} (h : k < cs.count '\n') :
    ∃ before after, cs = before ++ '\n' :: after ∧ before.count '\n' = k := by
  induction cs generalizing k with
  | nil => cases h
  | cons c cs ih =>
    by_cases hc : c = '\n'
    · rw [hc, List.count_cons_self] at h
      cases k with
      | zero => exact ⟨[], cs, by rw [hc]; rfl, rfl⟩
      | succ k =>
        obtain ⟨before, after, rfl, rfl⟩ := ih (Nat.lt_of_succ_lt_succ h)
        exact ⟨c :: before, after, rfl, by rw [hc, List.count_cons_self]⟩
    · rw [List.count_cons_of_ne hc] at h
      obtain ⟨before, after, rfl, rfl⟩ := ih h
      exact ⟨c :: before, after, rfl, List.count_cons_of_ne hc⟩

/-- A line begins after the newlines of those before it, or at the end of the text if there are
fewer. -/
theorem exists_lineStart (cs : List Char) (line : Nat) :
    ∃ front rest, cs = front ++ rest ∧ (LineIndex.ofChars cs).lineStart line = byteLength front
      ∧ (front.count '\n' = line - 1 ∨ rest = [] ∧ cs.count '\n' < line - 1) := by
  rw [LineIndex.lineStart]
  by_cases hfirst : line ≤ 1
  · refine ⟨[], cs, rfl, if_pos hfirst, .inl ?_⟩
    rw [List.count_nil]
    omega
  · rw [if_neg hfirst]
    by_cases hline : line - 2 < cs.count '\n'
    · obtain ⟨before, after, rfl, hcount⟩ := exists_newline hline
      have hbreak : (LineIndex.ofChars (before ++ '\n' :: after)).breaks[line - 2]?
          = some (byteLength before) := by
        show (breaksFrom 0 (before ++ '\n' :: after))[line - 2]? = _
        rw [breaksFrom_append, List.getElem?_append_right (by rw [length_breaksFrom]; omega),
          length_breaksFrom, hcount, Nat.sub_self, Nat.zero_add]
        rfl
      refine ⟨before ++ ['\n'], after, by rw [List.append_assoc]; rfl, ?_, .inl ?_⟩
      · rw [hbreak, byteLength_append]
        rfl
      · rw [List.count_append, hcount, List.count_singleton_self]
        omega
    · have hbreak : (LineIndex.ofChars cs).breaks[line - 2]? = none := by
        show (breaksFrom 0 cs)[line - 2]? = none
        rw [List.getElem?_eq_none_iff, length_breaksFrom]
        omega
      refine ⟨cs, [], (List.append_nil cs).symm, by rw [hbreak]; rfl, ?_⟩
      by_cases hlast : cs.count '\n' = line - 1
      · exact .inl hlast
      · exact .inr ⟨rfl, by omega⟩

theorem exists_line (cs : List Char) (line : Nat) :
    ∃ front text back, cs = front ++ text ++ back ∧ '\n' ∉ text
      ∧ (LineIndex.ofChars cs).lineStart line = byteLength front
      ∧ (LineIndex.ofChars cs).lineEnd line = byteLength front + byteLength text
      ∧ (1 ≤ line → text ≠ [] → front.count '\n' + 1 = line) := by
  obtain ⟨front, rest, hcs, hstart, hcount⟩ := exists_lineStart cs line
  have hend : (LineIndex.ofChars cs).lineEnd line
      = ((breaksFrom 0 cs)[line - 1]?).getD (byteLength cs) := rfl
  rcases hcount with hcount | ⟨rfl, hcount⟩
  · have hbreak : (breaksFrom 0 cs)[line - 1]? = (breaksFrom (byteLength front) rest)[0]? := by
      rw [hcs, breaksFrom_append, List.getElem?_append_right (by rw [length_breaksFrom]; omega),
        length_breaksFrom, hcount, Nat.sub_self, Nat.zero_add]
    rw [hbreak] at hend
    by_cases hrest : '\n' ∈ rest
    · obtain ⟨text, back, rfl, htext⟩ := List.eq_append_cons_of_mem hrest
      rw [breaksFrom_append_newline htext] at hend
      exact ⟨front, text, '\n' :: back, by rw [hcs, List.append_assoc], htext, hstart, hend,
        fun _ _ => by omega⟩
    · rw [breaksFrom_eq_nil hrest, hcs, byteLength_append] at hend
      exact ⟨front, rest, [], by rw [hcs, List.append_nil], hrest, hstart, by rw [hcs]; exact hend,
        fun _ _ => by omega⟩
  · have hbreak : (breaksFrom 0 cs)[line - 1]? = none := by
      rw [List.getElem?_eq_none_iff, length_breaksFrom]
      omega
    rw [hbreak, Option.getD_none] at hend
    rw [List.append_nil] at hcs
    exact ⟨front, [], [], by rw [hcs, List.append_nil, List.append_nil], by nofun, hstart,
      by rw [hend, hcs]; rfl, fun _ h => absurd rfl h⟩

/-! ### Lines one by one -/

theorem lineChunks_append (h : '\n' ∉ body) (rest : List Char) :
    lineChunks (body ++ '\n' :: rest) = (body ++ ['\n']) :: lineChunks rest := by
  induction body with
  | nil => rfl
  | cons c body ih =>
    obtain ⟨hc, hbody⟩ := List.ne_and_not_mem_of_not_mem_cons h
    show lineChunks.step c (lineChunks (body ++ '\n' :: rest)) = _
    rw [ih hbody, lineChunks.step, if_neg (Ne.symm hc)]
    rfl

theorem lineChunks_of_not_mem (h : '\n' ∉ cs) (hne : cs ≠ []) : lineChunks cs = [cs] := by
  induction cs with
  | nil => exact absurd rfl hne
  | cons c cs ih =>
    obtain ⟨hc, hcs⟩ := List.ne_and_not_mem_of_not_mem_cons h
    cases cs with
    | nil => exact if_neg (Ne.symm hc)
    | cons d cs =>
      show lineChunks.step c (lineChunks (d :: cs)) = _
      rw [ih hcs nofun, lineChunks.step, if_neg (Ne.symm hc)]

theorem byteLength_concat_newline (body : List Char) :
    byteLength (body ++ ['\n']) = byteLength body + 1 :=
  byteLength_append _ _

/-- One more line has one more newline. -/
theorem count_append_line (h : '\n' ∉ body) (front : List Char) :
    (front ++ (body ++ ['\n'])).count '\n' = front.count '\n' + 1 := by
  rw [List.count_append, List.count_append, List.count_eq_zero.mpr h, List.count_singleton_self,
    Nat.zero_add]

theorem line_induction {P : List Char → Prop} (last : ∀ cs, '\n' ∉ cs → P cs)
    (line : ∀ body rest, '\n' ∉ body → P rest → P (body ++ '\n' :: rest)) (cs : List Char) :
    P cs := by
  by_cases h : '\n' ∈ cs
  · obtain ⟨body, rest, hcs, hbody⟩ := List.eq_append_cons_of_mem h
    rw [hcs]
    exact line body rest hbody (line_induction last line rest)
  · exact last cs h
termination_by cs.length
decreasing_by
  rw [hcs, List.length_append, List.length_cons]
  omega

/-! ### Lines joined -/

/-- The lines of a text without their newlines. -/
def lineTexts (cs : List Char) : List (List Char) := splitBy (· == '\n') cs

/-- Some lines with a newline after each but the last. -/
def joinLines (lines : List (List Char)) : List Char := ['\n'].intercalate lines

variable {front middle back lines : List (List Char)}

theorem joinLines_lineTexts (cs : List Char) : joinLines (lineTexts cs) = cs := by
  rw [joinLines, lineTexts, splitBy_eq_splitOnP]
  exact List.intercalate_splitOn '\n'

theorem newline_not_mem_of_mem_lineTexts (h : body ∈ lineTexts cs) : '\n' ∉ body := by
  intro hmem
  exact absurd (sep_eq_false_of_mem_splitBy h '\n' hmem) (by decide)

/-- A newline cuts a text into two that have their lines apart. -/
theorem lineTexts_append_newline (before after : List Char) :
    lineTexts (before ++ '\n' :: after) = lineTexts before ++ lineTexts after :=
  splitBy_append_cons (by decide) before after

theorem lineTexts_of_not_mem (h : '\n' ∉ body) : lineTexts body = [body] := by
  refine splitBy_eq_singleton fun c hc => ?_
  rw [beq_eq_false_iff_ne]
  exact ne_of_mem_of_not_mem hc h

/-- Lines come back when they are joined. -/
theorem lineTexts_joinLines (hne : lines ≠ []) (h : ∀ line ∈ lines, '\n' ∉ line) :
    lineTexts (joinLines lines) = lines :=
  splitBy_intercalate hne h

/-- There is one newline less than lines. -/
theorem count_joinLines (hne : lines ≠ []) (h : ∀ line ∈ lines, '\n' ∉ line) :
    (joinLines lines).count '\n' + 1 = lines.length := by
  induction lines with
  | nil => exact absurd rfl hne
  | cons line lines ih =>
    obtain ⟨hline, hlines⟩ := List.forall_mem_cons.mp h
    by_cases hlast : lines = []
    · rw [hlast, joinLines, List.intercalate_singleton, List.count_eq_zero.mpr hline]
      rfl
    · rw [joinLines, List.intercalate_cons_of_ne_nil hlast, List.count_append, List.count_append,
        List.count_eq_zero.mpr hline, List.count_singleton_self, List.length_cons,
        ← ih hlast hlines, joinLines]
      omega

theorem length_lineTexts (cs : List Char) :
    (lineTexts cs).length = (LineIndex.ofChars cs).lineCount := by
  have hne : lineTexts cs ≠ [] := splitBy_ne_nil _ cs
  rw [← count_joinLines hne fun _ => newline_not_mem_of_mem_lineTexts, joinLines_lineTexts]
  exact congrArg (· + 1) (length_breaksFrom 0 cs).symm

theorem LineIndex.lineStart_one (index : LineIndex) : index.lineStart 1 = 0 :=
  if_pos (Nat.le_refl 1)

/-- The newline after the first lines comes where they end. -/
theorem getElem?_breaksFrom_joinLines (hfront : front ≠ []) (hback : back ≠ [])
    (h : ∀ line ∈ front, '\n' ∉ line) :
    (breaksFrom 0 (joinLines (front ++ back)))[front.length - 1]?
      = some (byteLength (joinLines front)) := by
  rw [joinLines, intercalate_append hfront hback, breaksFrom_append,
    ← count_joinLines hfront h, Nat.add_sub_cancel, ← length_breaksFrom 0, joinLines,
    List.getElem?_append_right (Nat.le_refl _), Nat.sub_self, breaksFrom, if_pos rfl, Nat.zero_add]
  rfl

theorem lineEnd_joinLines (hfront : front ≠ []) (h : ∀ line ∈ front, '\n' ∉ line)
    (back : List (List Char)) :
    (LineIndex.ofChars (joinLines (front ++ back))).lineEnd front.length
      = byteLength (joinLines front) := by
  show ((breaksFrom 0 (joinLines (front ++ back)))[front.length - 1]?).getD
    (byteLength (joinLines (front ++ back))) = _
  by_cases hback : back = []
  · -- After the last line there is no newline, and it ends with the text.
    have hlength := count_joinLines hfront h
    have hnone : (breaksFrom 0 (joinLines front))[front.length - 1]? = none := by
      rw [List.getElem?_eq_none_iff, length_breaksFrom]
      omega
    rw [hback, List.append_nil, hnone, Option.getD_none]
  · rw [getElem?_breaksFrom_joinLines hfront hback h, Option.getD_some]

theorem lineStart_joinLines (hfront : front ≠ []) (hback : back ≠ [])
    (h : ∀ line ∈ front, '\n' ∉ line) :
    (LineIndex.ofChars (joinLines (front ++ back))).lineStart (front.length + 1)
      = byteLength (joinLines front) + 1 := by
  have hpos := List.length_pos_iff.mpr hfront
  have hbreak : (LineIndex.ofChars (joinLines (front ++ back))).breaks[front.length + 1 - 2]?
      = some (byteLength (joinLines front)) := getElem?_breaksFrom_joinLines hfront hback h
  rw [LineIndex.lineStart, if_neg (by omega), hbreak]

/-- Between the beginning of a line and the end of one that does not come before it are these lines
and those between them. -/
theorem cut_joinLines (hmiddle : middle ≠ []) (hfront : ∀ line ∈ front, '\n' ∉ line)
    (h : ∀ line ∈ middle, '\n' ∉ line) (back : List (List Char)) :
    cut ((LineIndex.ofChars (joinLines (front ++ middle ++ back))).lineStart (front.length + 1))
        ((LineIndex.ofChars (joinLines (front ++ middle ++ back))).lineEnd
          (front.length + middle.length))
        (joinLines (front ++ middle ++ back))
      = joinLines middle := by
  have hend := lineEnd_joinLines (List.append_ne_nil_of_right_ne_nil front hmiddle)
    (List.forall_mem_append.mpr ⟨hfront, h⟩) back
  rw [List.length_append] at hend
  have hnext : ∃ rest, joinLines (front ++ middle ++ back)
      = joinLines (front ++ middle) ++ rest := by
    by_cases hback : back = []
    · exact ⟨[], by rw [hback, List.append_nil, List.append_nil]⟩
    · exact ⟨_, intercalate_append (List.append_ne_nil_of_right_ne_nil front hmiddle) hback⟩
  obtain ⟨rest, hrest⟩ := hnext
  by_cases hnil : front = []
  · have hcut := cut_append [] (joinLines middle) rest
    rw [byteLength_nil, Nat.zero_add, List.nil_append] at hcut
    rw [hend, hrest, hnil, List.nil_append, List.length_nil, Nat.zero_add,
      LineIndex.lineStart_one]
    exact hcut
  · have hstart := lineStart_joinLines hnil (List.append_ne_nil_of_left_ne_nil hmiddle back) hfront
    rw [← List.append_assoc] at hstart
    have hparts : joinLines (front ++ middle)
        = (joinLines front ++ ['\n']) ++ joinLines middle := by
      rw [joinLines, intercalate_append hnil hmiddle, List.append_assoc]
      rfl
    rw [hend, hstart, hrest, hparts, ← byteLength_concat_newline (joinLines front),
      byteLength_append (joinLines front ++ ['\n'])]
    exact cut_append _ _ rest

theorem cut_lines {first last : Nat} (hfirst : 1 ≤ first) (hle : first ≤ last)
    (hlast : last ≤ (LineIndex.ofChars cs).lineCount) :
    cut ((LineIndex.ofChars cs).lineStart first) ((LineIndex.ofChars cs).lineEnd last) cs
      = joinLines (((lineTexts cs).drop (first - 1)).take (last + 1 - first)) := by
  rw [← length_lineTexts] at hlast
  have hnewline : ∀ line ∈ lineTexts cs, '\n' ∉ line := fun _ => newline_not_mem_of_mem_lineTexts
  obtain ⟨front, hfront⟩ : ∃ front, (lineTexts cs).take (first - 1) = front := ⟨_, rfl⟩
  obtain ⟨middle, hmiddle⟩ :
    ∃ middle, ((lineTexts cs).drop (first - 1)).take (last + 1 - first) = middle := ⟨_, rfl⟩
  obtain ⟨back, hback⟩ :
    ∃ back, ((lineTexts cs).drop (first - 1)).drop (last + 1 - first) = back := ⟨_, rfl⟩
  have hparts : lineTexts cs = front ++ middle ++ back := by
    rw [← hfront, ← hmiddle, ← hback, List.append_assoc, List.take_append_drop,
      List.take_append_drop]
  have hlength : front.length = first - 1 := by
    rw [← hfront, List.length_take]
    omega
  have hlength' : middle.length = last + 1 - first := by
    rw [← hmiddle, List.length_take, List.length_drop]
    omega
  rw [hparts] at hnewline
  obtain ⟨hnewline, -⟩ := List.forall_mem_append.mp hnewline
  obtain ⟨hnewline, hnewline'⟩ := List.forall_mem_append.mp hnewline
  have hne : middle ≠ [] := List.length_pos_iff.mp (by omega)
  have hcut := cut_joinLines hne hnewline hnewline' back
  rw [← hparts, joinLines_lineTexts, hlength, hlength', Nat.sub_add_cancel hfirst,
    show first - 1 + (last + 1 - first) = last by omega] at hcut
  rw [hcut, hmiddle]

end SourceRetrieval.Text
