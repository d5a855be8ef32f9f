/-
Blocks by indentation are maximal.

* `IsLineAt` — the lines of a text, of which `mem_placeLines_iff` and `mem_placeLines_cut` say that
  they are the ones that are placed;
* `find?_first` and `mem_takeWhile_iff` — of lines in order, the first one that ends a block is
  found, and those before it are kept;
* `IsBlock` — the block below a header, from the next line on up to the first significant line that
  is not indented deeper than the header;
* `indentedBody?_maximal` — this is the block that is found if it has a significant line, and its
  members are the lines at the indentation of the first one.

Design notes: a line is found as a split of the text, and the scan is compared with all splits
at once.  That it goes from line to line matters only for the order of what it finds.
-/
import SourceRetrieval.Proofs.Outline.CheckedBody
import SourceRetrieval.Proofs.Text.Blank
import SourceRetrieval.Proofs.Text.Lines

namespace SourceRetrieval.Outline

open Text

variable {cs front middle back body rest line : List Char} {start stop offset n : Nat}

/-! ### Lines of a text -/

/-- A text behind which a line begins: it is empty or ends with a newline. -/
def EndsLine (cs : List Char) : Prop := cs = [] ∨ cs.getLast? = some '\n'

/-- A line of a text, with its newline: it begins with the text or behind a newline, and ends with
its only newline or, if it has none, with the text. -/
def IsLineAt (cs : List Char) (offset : Nat) (line : List Char) : Prop :=
  ∃ before after, cs = before ++ line ++ after ∧ offset = byteLength before ∧ EndsLine before
    ∧ ((∃ body, line = body ++ ['\n'] ∧ '\n' ∉ body) ∨ line ≠ [] ∧ '\n' ∉ line ∧ after = [])

theorem endsLine_concat (body : List Char) : EndsLine (body ++ ['\n']) :=
  .inr List.getLast?_concat

theorem EndsLine.append (hfront : EndsLine front) (h : EndsLine cs) : EndsLine (front ++ cs) := by
  rcases h with rfl | h
  · rwa [List.append_nil]
  · exact .inr (by rw [List.getLast?_append, h]; rfl)

theorem EndsLine.of_append (h : EndsLine (front ++ cs)) : EndsLine cs := by
  by_cases hcs : cs = []
  · exact .inl hcs
  · rcases h with h | h
    · exact absurd (List.append_eq_nil_iff.mp h).2 hcs
    · rw [List.getLast?_append, List.getLast?_eq_some_getLast hcs] at h
      exact .inr (by rw [List.getLast?_eq_some_getLast hcs]; exact h)

theorem EndsLine.eq_nil (h : EndsLine cs) (hcs : '\n' ∉ cs) : cs = [] :=
  h.resolve_right fun hlast => hcs (List.mem_of_getLast? hlast)

/-- A line of a text that begins between two offsets. -/
def IsLineIn (cs : List Char) (start stop offset : Nat) (line : List Char) : Prop :=
  IsLineAt cs offset line ∧ start ≤ offset ∧ offset < stop

theorem IsLineAt.ne_nil (h : IsLineAt cs offset line) : line ≠ [] := by
  obtain ⟨-, -, -, -, -, ⟨body, rfl, -⟩ | ⟨hne, -⟩⟩ := h
  · exact List.append_ne_nil_of_right_ne_nil body (List.cons_ne_nil _ _)
  · exact hne

/-- A line begins before the end of the text. -/
theorem IsLineAt.lt (h : IsLineAt cs offset line) : offset < byteLength cs := by
  have hline := Nat.pos_of_ne_zero (mt byteLength_eq_zero_iff.mp h.ne_nil)
  obtain ⟨before, after, rfl, rfl, -⟩ := h
  rw [byteLength_append, byteLength_append]
  omega

/-- Behind a newline, the lines of a text are those of what comes there. -/
theorem isLineAt_append_iff (hfront : EndsLine front) :
    IsLineAt (front ++ cs) offset line ∧ byteLength front ≤ offset
      ↔ ∃ n, offset = byteLength front + n ∧ IsLineAt cs n line := by
  constructor
  · rintro ⟨⟨before, after, hcs, rfl, hbefore, hline⟩, hle⟩
    rw [List.append_assoc] at hcs
    obtain ⟨between, rfl⟩ : front <+: before :=
      isPrefix_of_byteLength_le ⟨cs, rfl⟩ ⟨line ++ after, hcs.symm⟩ hle
    rw [List.append_assoc, List.append_cancel_left_eq] at hcs
    refine ⟨byteLength between, byteLength_append _ _, between, after, ?_, rfl, hbefore.of_append,
      hline⟩
    rw [hcs, List.append_assoc]
  · rintro ⟨n, rfl, before, after, rfl, rfl, hbefore, hline⟩
    refine ⟨⟨front ++ before, after, ?_, (byteLength_append _ _).symm, hfront.append hbefore,
      hline⟩, Nat.le_add_right _ _⟩
    rw [List.append_assoc, List.append_assoc, List.append_assoc]

/-- A text without newline is one line. -/
theorem isLineAt_iff_of_not_mem (h : '\n' ∉ cs) :
    IsLineAt cs n line ↔ cs ≠ [] ∧ n = 0 ∧ line = cs := by
  constructor
  · intro hline
    have hne := hline.ne_nil
    obtain ⟨before, after, rfl, rfl, hbefore, ⟨body, rfl, -⟩ | ⟨-, -, rfl⟩⟩ := hline
    · exact absurd (List.mem_append_left _ (List.mem_append_right _ (List.mem_append_right _
        List.mem_cons_self))) h
    · rw [List.append_nil] at h ⊢
      obtain rfl := hbefore.eq_nil fun hmem => h (List.mem_append_left _ hmem)
      exact ⟨hne, rfl, rfl⟩
  · rintro ⟨hne, rfl, rfl⟩
    exact ⟨[], [], (List.append_nil _).symm, rfl, .inl rfl, .inr ⟨hne, h, rfl⟩⟩

/-- The lines of a text with a newline are the one up to the first newline and those behind it. -/
theorem isLineAt_newline_iff (h : '\n' ∉ body) :
    IsLineAt (body ++ '\n' :: rest) n line
      ↔ n = 0 ∧ line = body ++ ['\n']
        ∨ ∃ m, n = byteLength body + 1 + m ∧ IsLineAt rest m line := by
  have hsplit : body ++ '\n' :: rest = (body ++ ['\n']) ++ rest := List.append_cons _ _ _
  rw [← byteLength_concat_newline, ← isLineAt_append_iff (endsLine_concat body), ← hsplit,
    byteLength_concat_newline]
  constructor
  · intro hline
    by_cases hn : byteLength body + 1 ≤ n
    · exact .inr ⟨hline, hn⟩
    · -- A line that begins before the first newline begins with the text.
      obtain ⟨before, after, hcs, rfl, hbefore, hline⟩ := hline
      have hbegins : before <+: body :=
        isPrefix_of_byteLength_le ⟨line ++ after, by rw [hcs, List.append_assoc]⟩
          (List.prefix_append body _) (by omega)
      obtain rfl := hbefore.eq_nil fun hmem => h (hbegins.subset hmem)
      rw [List.nil_append] at hcs
      obtain ⟨found, rfl, hfound⟩ | ⟨-, hnone, rfl⟩ := hline
      · rw [List.append_assoc, List.singleton_append] at hcs
        have hsame := takeWhile_append_cons h rest
        rw [hcs, takeWhile_append_cons hfound] at hsame
        exact .inl ⟨rfl, by rw [hsame]⟩
      · rw [List.append_nil] at hcs
        exact absurd (hcs ▸ List.mem_append_right body List.mem_cons_self) hnone
  · rintro (⟨rfl, rfl⟩ | ⟨hline, -⟩)
    · exact ⟨[], rest, hsplit, rfl, .inl rfl, .inl ⟨body, rfl, h⟩⟩
    · exact hline

theorem mem_placeLines_iff : (offset, line) ∈ placeLines start (lineChunks cs)
    ↔ ∃ n, offset = start + n ∧ IsLineAt cs n line := by
  induction cs using line_induction generalizing start with
  | last cs hcs =>
    by_cases hempty : cs = []
    · subst hempty
      refine iff_of_false List.not_mem_nil ?_
      rintro ⟨n, -, hline⟩
      exact Nat.not_lt_zero n hline.lt
    · rw [lineChunks_of_not_mem hcs hempty, placeLines, placeLines, List.mem_singleton,
        Prod.mk.injEq]
      simp only [isLineAt_iff_of_not_mem hcs]
      constructor
      · rintro ⟨rfl, rfl⟩
        exact ⟨0, rfl, hempty, rfl, rfl⟩
      · rintro ⟨n, rfl, -, rfl, rfl⟩
        exact ⟨rfl, rfl⟩
  | line body rest hbody ih =>
    rw [lineChunks_append hbody, placeLines, List.mem_cons, Prod.mk.injEq, ih,
      byteLength_concat_newline]
    simp only [isLineAt_newline_iff hbody]
    constructor
    · rintro (⟨rfl, rfl⟩ | ⟨m, rfl, hline⟩)
      · exact ⟨0, rfl, .inl ⟨rfl, rfl⟩⟩
      · exact ⟨byteLength body + 1 + m, Nat.add_assoc _ _ _, .inr ⟨m, rfl, hline⟩⟩
    · rintro ⟨n, rfl, ⟨rfl, rfl⟩ | ⟨m, rfl, hline⟩⟩
      · exact .inl ⟨rfl, rfl⟩
      · exact .inr ⟨m, (Nat.add_assoc _ _ _).symm, hline⟩

theorem pairwise_placeLines (start : Nat) (cs : List Char) :
    (placeLines start (lineChunks cs)).Pairwise fun a b => a.1 < b.1 := by
  induction cs using line_induction generalizing start with
  | last cs hcs =>
    by_cases hempty : cs = []
    · subst hempty
      exact .nil
    · rw [lineChunks_of_not_mem hcs hempty]
      exact List.pairwise_singleton _ _
  | line body rest hbody ih =>
    rw [lineChunks_append hbody, placeLines]
    refine List.pairwise_cons.mpr ⟨fun later h => ?_, ih _⟩
    obtain ⟨n, hn, -⟩ := mem_placeLines_iff.mp h
    rw [hn, byteLength_concat_newline]
    omega

/-! ### Lines of a part of a text -/

theorem lineChunks_append_newline (before after : List Char) :
    lineChunks (before ++ '\n' :: after) = lineChunks (before ++ ['\n']) ++ lineChunks after := by
  induction before using line_induction with
  | last before hbefore =>
    rw [lineChunks_append hbefore, lineChunks_append hbefore]
    rfl
  | line body rest hbody ih =>
    rw [List.append_assoc, List.append_assoc, List.cons_append, List.cons_append,
      lineChunks_append hbody, lineChunks_append hbody, ih, List.cons_append]

/-- The lines of a text that ends with a newline and of what comes behind it are apart. -/
theorem lineChunks_append_of_endsLine (h : EndsLine front) (back : List Char) :
    lineChunks (front ++ back) = lineChunks front ++ lineChunks back := by
  rcases h with rfl | h
  · rfl
  · obtain ⟨before, rfl⟩ := List.getLast?_eq_some_iff.mp h
    rw [List.append_assoc, List.singleton_append, lineChunks_append_newline]

theorem placeLines_append (start : Nat) (chunks others : List (List Char)) :
    placeLines start (chunks ++ others)
      = placeLines start chunks ++ placeLines (start + byteLength chunks.flatten) others := by
  induction chunks generalizing start with
  | nil => rfl
  | cons chunk chunks ih =>
    rw [List.cons_append, placeLines, placeLines, ih, List.flatten_cons, byteLength_append,
      Nat.add_assoc, List.cons_append]

/-- The lines that are placed behind a newline are the lines of the whole text from there on. -/
theorem mem_placeLines_behind (hfront : EndsLine front) :
    (offset, line) ∈ placeLines (byteLength front) (lineChunks cs)
      ↔ IsLineAt (front ++ cs) offset line ∧ byteLength front ≤ offset :=
  mem_placeLines_iff.trans (isLineAt_append_iff hfront).symm

/-- The lines of a part that begins behind a newline, and ends with one or with the text, are the
lines of the text that begin there. -/
theorem mem_placeLines_cut (hfront : EndsLine front) (hmiddle : EndsLine middle ∨ back = []) :
    (offset, line) ∈ placeLines (byteLength front) (lineChunks middle)
      ↔ IsLineIn (front ++ (middle ++ back)) (byteLength front)
          (byteLength front + byteLength middle) offset line := by
  have hchunks : lineChunks (middle ++ back) = lineChunks middle ++ lineChunks back := by
    rcases hmiddle with hmiddle | rfl
    · exact lineChunks_append_of_endsLine hmiddle back
    · exact (congrArg lineChunks (List.append_nil middle)).trans (List.append_nil _).symm
  have hall := @mem_placeLines_behind (middle ++ back) front line offset hfront
  rw [hchunks, placeLines_append, flatten_lineChunks, List.mem_append] at hall
  constructor
  · intro h
    obtain ⟨hline, hle⟩ := hall.mp (.inl h)
    obtain ⟨n, rfl, hn⟩ := mem_placeLines_iff.mp h
    exact ⟨hline, hle, Nat.add_lt_add_left hn.lt _⟩
  · rintro ⟨hline, hle, hlt⟩
    refine (hall.mpr ⟨hline, hle⟩).resolve_right fun h => ?_
    obtain ⟨n, rfl, -⟩ := mem_placeLines_iff.mp h
    omega

/-! ### Finding among lines in order -/

section InOrder

variable {lines : List (Nat × List Char)} {first entry : Nat × List Char}
  {p : Nat × List Char → Bool}

theorem find?_first (hlines : lines.Pairwise fun a b => a.1 < b.1)
    (h : lines.find? p = some first) :
    first ∈ lines ∧ p first = true ∧ ∀ other ∈ lines, p other = true → first.1 ≤ other.1 := by
  obtain ⟨hfirst, before, after, rfl, hbefore⟩ := List.find?_eq_some_iff_append.mp h
  refine ⟨List.mem_append_right _ List.mem_cons_self, hfirst, fun other hother hp => ?_⟩
  rcases List.mem_append.mp hother with hother | hother
  · exact absurd hp (by simpa using hbefore other hother)
  · rcases List.mem_cons.mp hother with rfl | hother
    · exact Nat.le_refl _
    · have hlater := List.rel_of_pairwise_cons (List.pairwise_append.mp hlines).2.1 hother
      exact Nat.le_of_lt hlater

theorem mem_takeWhile_iff (hlines : lines.Pairwise fun a b => a.1 < b.1) :
    entry ∈ lines.takeWhile (!p ·)
      ↔ entry ∈ lines ∧ ∀ other ∈ lines, p other = true → entry.1 < other.1 := by
  induction lines with
  | nil => exact iff_of_false List.not_mem_nil fun h => List.not_mem_nil h.1
  | cons line lines ih =>
    obtain ⟨hfirst, hlater⟩ := List.pairwise_cons.mp hlines
    rw [List.mem_cons, List.forall_mem_cons]
    cases hp : p line with
    | true =>
      rw [List.takeWhile_cons_of_neg (by simp [hp])]
      refine iff_of_false List.not_mem_nil ?_
      rintro ⟨rfl | hentry, hlt, -⟩
      · exact Nat.lt_irrefl _ (hlt rfl)
      · exact Nat.lt_asymm (hfirst entry hentry) (hlt rfl)
    | false =>
      rw [List.takeWhile_cons_of_pos (by simp [hp]), List.mem_cons, ih hlater,
        and_iff_right (show false = true → entry.1 < line.1 from nofun)]
      constructor
      · rintro (rfl | ⟨hentry, hlt⟩)
        · exact ⟨.inl rfl, fun other hother _ => hfirst other hother⟩
        · exact ⟨.inr hentry, hlt⟩
      · exact fun ⟨hentry, hlt⟩ => hentry.imp_right fun hentry => ⟨hentry, hlt⟩

end InOrder

/-! ### Blocks -/

/-- A line that is neither blank nor a comment: its first character that is no blank is not `#`. -/
def IsSignificant (line : List Char) : Prop :=
  ∃ blanks c rest, line = blanks ++ c :: rest ∧ (∀ b ∈ blanks, isBlank b = true)
    ∧ isBlank c = false ∧ c ≠ '#'

theorem isSignificant_iff : isSignificant line = true ↔ IsSignificant line := by
  rcases blank_or_exists line with hblank | ⟨blanks, c, rest, rfl, hblanks, hc⟩
  · rw [isSignificant, trim_eq_nil_iff.mpr (List.all_eq_true.mpr hblank)]
    refine iff_of_false Bool.false_ne_true ?_
    rintro ⟨blanks, c, rest, rfl, -, hc, -⟩
    rw [hblank c (List.mem_append_right _ List.mem_cons_self)] at hc
    cases hc
  · rw [isSignificant, trim_append_cons hblanks hc, bne_iff_ne]
    constructor
    · exact fun hne => ⟨blanks, c, rest, rfl, hblanks, hc, hne⟩
    · rintro ⟨blanks', c', rest', hline, hblanks', hc', hne⟩
      have htrim := trim_append_cons hblanks hc rest
      rw [hline, trim_append_cons hblanks' hc'] at htrim
      exact (List.cons_eq_cons.mp htrim).1 ▸ hne

/-- The offset behind the first newline at or behind the end of a header. -/
def BeginsBelow (cs : List Char) (headerEnd start : Nat) : Prop :=
  ∃ before sameLine below, cs = before ++ (sameLine ++ '\n' :: below)
    ∧ headerEnd = byteLength before ∧ '\n' ∉ sameLine
    ∧ start = byteLength before + byteLength sameLine + 1

/-- The block below a header: it begins behind the first newline at or behind the end of the
header, its significant lines are indented deeper than the header, and it ends where one begins
that is not, or with the text. -/
structure IsBlock (cs : List Char) (headerEnd headerIndent start stop : Nat) : Prop where
  begins : BeginsBelow cs headerEnd start
  le : start ≤ stop
  deeper : ∀ offset line, IsLineIn cs start stop offset line → IsSignificant line →
    headerIndent < indentWidth line
  ends : stop = byteLength cs
    ∨ ∃ line, IsLineAt cs stop line ∧ IsSignificant line ∧ indentWidth line ≤ headerIndent

variable {headerEnd headerIndent start' stop' : Nat} {sameLine below : List Char}

/-- What comes before that offset ends with a newline. -/
theorem BeginsBelow.exists_header (h : BeginsBelow cs headerEnd start) :
    ∃ header below, cs = header ++ below ∧ EndsLine header ∧ start = byteLength header := by
  obtain ⟨front, sameLine, below, rfl, -, -, rfl⟩ := h
  exact ⟨_, below, header_append front sameLine below, endsLine_concat _,
    (byteLength_header front sameLine).symm⟩

theorem BeginsBelow.le (h : BeginsBelow cs headerEnd start) : start ≤ byteLength cs := by
  obtain ⟨header, below, rfl, -, rfl⟩ := h.exists_header
  rw [byteLength_append]
  exact Nat.le_add_right _ _

theorem BeginsBelow.eq (h : BeginsBelow cs headerEnd start) :
    start = headerEnd + byteLength ((dropBytes headerEnd cs).takeWhile (· != '\n')) + 1 := by
  obtain ⟨before, sameLine, below, rfl, rfl, hsame, rfl⟩ := h
  rw [dropBytes_append, takeWhile_append_cons hsame]

theorem IsBlock.stop_le (h : IsBlock cs headerEnd headerIndent start stop) :
    stop ≤ byteLength cs := by
  rcases h.ends with hstop | ⟨line, hline, -⟩
  · exact Nat.le_of_eq hstop
  · exact Nat.le_of_lt hline.lt

/-- Of two blocks that begin together, none ends before the other one. -/
theorem IsBlock.stop_le_stop (h : IsBlock cs headerEnd headerIndent start stop)
    (h' : IsBlock cs headerEnd headerIndent start stop') : stop' ≤ stop := by
  rcases h.ends with rfl | ⟨line, hline, hsignificant, hindent⟩
  · exact h'.stop_le
  · refine Nat.le_of_not_lt fun hlt => ?_
    exact absurd (h'.deeper stop line ⟨hline, h.le, hlt⟩ hsignificant) (Nat.not_lt_of_le hindent)

theorem IsBlock.unique (h : IsBlock cs headerEnd headerIndent start stop)
    (h' : IsBlock cs headerEnd headerIndent start' stop') : start' = start ∧ stop' = stop := by
  obtain rfl : start' = start := h'.begins.eq.trans h.begins.eq.symm
  exact ⟨rfl, Nat.le_antisymm (h.stop_le_stop h') (h'.stop_le_stop h)⟩

/-- The indentation of the first significant line that begins between two offsets. -/
def IsFirstIndent (cs : List Char) (start stop indent : Nat) : Prop :=
  ∃ first line, IsLineIn cs start stop first line ∧ IsSignificant line ∧ indentWidth line = indent
    ∧ ∀ offset other, IsLineIn cs start stop offset other → IsSignificant other → first ≤ offset

/-! ### The block that is found -/

/-- Whether a line ends a block below a header of some indentation. -/
def endsBlock (headerIndent : Nat) (line : Nat × List Char) : Bool :=
  isSignificant line.2 && indentWidth line.2 ≤ headerIndent

/-- Where a block ends among lines of a text of some length. -/
def stopOf (headerIndent length : Nat) (lines : List (Nat × List Char)) : Nat :=
  match lines.find? (endsBlock headerIndent) with
  | some (offset, _) => offset
  | none => length

/-- The block among the lines below a header, of a text of some length. -/
def blockOf (headerIndent start length : Nat) (lines : List (Nat × List Char)) :
    Option IndentedBody := do
  let first ← (lines.takeWhile (!endsBlock headerIndent ·)).find? (isSignificant ·.2)
  return ⟨start, stopOf headerIndent length lines, indentWidth first.2⟩

theorem endsBlock_iff {entry : Nat × List Char} : endsBlock headerIndent entry = true
    ↔ IsSignificant entry.2 ∧ indentWidth entry.2 ≤ headerIndent := by
  rw [endsBlock, Bool.and_eq_true, isSignificant_iff, decide_eq_true_eq]

theorem indentedBody?_of_not_mem (headerIndent : Nat) (h : '\n' ∉ dropBytes headerEnd cs) :
    indentedBody? cs headerEnd headerIndent = none := by
  have hsame : (dropBytes headerEnd cs).takeWhile (· != '\n') = dropBytes headerEnd cs :=
    List.takeWhile_eq_self_iff.mpr (bne_of_not_mem h)
  rw [indentedBody?]
  dsimp only
  rw [hsame, if_neg (Nat.lt_irrefl _)]

section InOrder

variable {lines : List (Nat × List Char)} {entry : Nat × List Char} {length : Nat}

theorem stopOf_ends (headerIndent length : Nat) (lines : List (Nat × List Char)) :
    stopOf headerIndent length lines = length
      ∨ ∃ line, (stopOf headerIndent length lines, line) ∈ lines
        ∧ endsBlock headerIndent (stopOf headerIndent length lines, line) = true := by
  rw [stopOf]
  split
  next offset line hfound =>
    exact .inr ⟨line, List.mem_of_find?_eq_some hfound, List.find?_some hfound⟩
  next => exact .inl rfl

/-- The lines of a block are those that begin before its end. -/
theorem mem_takeWhile_iff_lt_stopOf (hlines : lines.Pairwise fun a b => a.1 < b.1)
    (hlength : ∀ entry ∈ lines, entry.1 < length) :
    entry ∈ lines.takeWhile (!endsBlock headerIndent ·)
      ↔ entry ∈ lines ∧ entry.1 < stopOf headerIndent length lines := by
  rw [mem_takeWhile_iff hlines, stopOf]
  refine and_congr_right fun hentry => ?_
  split
  next offset line hfound =>
    obtain ⟨hmem, hends, hleast⟩ := find?_first hlines hfound
    exact ⟨fun h => h _ hmem hends,
      fun h other hother hp => Nat.lt_of_lt_of_le h (hleast other hother hp)⟩
  next hnone =>
    exact iff_of_true (fun other hother hp => absurd hp (List.find?_eq_none.mp hnone other hother))
      (hlength entry hentry)

theorem blockOf_eq_none_iff (hlines : lines.Pairwise fun a b => a.1 < b.1)
    (hlength : ∀ entry ∈ lines, entry.1 < length) :
    blockOf headerIndent start length lines = none
      ↔ ∀ entry ∈ lines, entry.1 < stopOf headerIndent length lines → ¬IsSignificant entry.2 := by
  have hnone : blockOf headerIndent start length lines = none
      ↔ (lines.takeWhile (!endsBlock headerIndent ·)).find? (isSignificant ·.2) = none := by
    rw [blockOf]
    cases (lines.takeWhile (!endsBlock headerIndent ·)).find? (isSignificant ·.2) with
    | none => exact iff_of_true rfl rfl
    | some first => exact iff_of_false nofun nofun
  rw [hnone, List.find?_eq_none]
  simp only [mem_takeWhile_iff_lt_stopOf hlines hlength, isSignificant_iff, and_imp]

theorem blockOf_eq_some (hlines : lines.Pairwise fun a b => a.1 < b.1)
    (hlength : ∀ entry ∈ lines, entry.1 < length) {body : IndentedBody}
    (h : blockOf headerIndent start length lines = some body) :
    body.start = start ∧ body.stop = stopOf headerIndent length lines
      ∧ ∃ first ∈ lines, first.1 < body.stop ∧ IsSignificant first.2
        ∧ indentWidth first.2 = body.indent
        ∧ ∀ other ∈ lines, other.1 < body.stop → IsSignificant other.2 → first.1 ≤ other.1 := by
  obtain ⟨first, hfirst, hbody⟩ := Option.bind_eq_some_iff.mp h
  cases hbody
  obtain ⟨hmem, hsignificant, hleast⟩ :=
    find?_first (hlines.sublist (List.takeWhile_sublist _)) hfirst
  obtain ⟨hmem, hlt⟩ := (mem_takeWhile_iff_lt_stopOf hlines hlength).mp hmem
  refine ⟨rfl, rfl, first, hmem, hlt, isSignificant_iff.mp hsignificant, rfl,
    fun other hother hlt hsignificant => ?_⟩
  exact hleast other ((mem_takeWhile_iff_lt_stopOf hlines hlength).mpr ⟨hother, hlt⟩)
    (isSignificant_iff.mpr hsignificant)

/-- The bounds found among the lines of a text from some offset on are those of a block. -/
theorem isBlock_stopOf (hbegins : BeginsBelow cs headerEnd start)
    (hlines : lines.Pairwise fun a b => a.1 < b.1)
    (hmem : ∀ offset line, (offset, line) ∈ lines ↔ IsLineAt cs offset line ∧ start ≤ offset) :
    IsBlock cs headerEnd headerIndent start (stopOf headerIndent (byteLength cs) lines) where
  begins := hbegins
  le := by
    rcases stopOf_ends headerIndent (byteLength cs) lines with hstop | ⟨line, hline, -⟩
    · rw [hstop]
      exact hbegins.le
    · exact ((hmem _ line).mp hline).2
  deeper offset line hline hsignificant := by
    have hinside := (mem_takeWhile_iff_lt_stopOf hlines
      fun entry hentry => ((hmem _ _).mp hentry).1.lt).mpr
        ⟨(hmem offset line).mpr ⟨hline.1, hline.2.1⟩, hline.2.2⟩
    have hends : endsBlock headerIndent (offset, line) = false := by
      simpa using List.mem_takeWhile_imp hinside
    refine Nat.lt_of_not_le fun hindent => ?_
    exact absurd (endsBlock_iff.mpr ⟨hsignificant, hindent⟩) (Bool.eq_false_iff.mp hends)
  ends := by
    refine (stopOf_ends headerIndent (byteLength cs) lines).imp_right ?_
    rintro ⟨line, hline, hends⟩
    exact ⟨line, ((hmem _ line).mp hline).1, endsBlock_iff.mp hends⟩

end InOrder

/-- The lines below a header are the lines of the text from there on. -/
theorem mem_placeLines_below (front sameLine below : List Char) (offset : Nat) (line : List Char) :
    (offset, line) ∈ placeLines (byteLength front + byteLength sameLine + 1) (lineChunks below)
      ↔ IsLineAt (front ++ (sameLine ++ '\n' :: below)) offset line
        ∧ byteLength front + byteLength sameLine + 1 ≤ offset := by
  have hmem := @mem_placeLines_behind below _ line offset (endsLine_concat (front ++ sameLine))
  rwa [byteLength_header, ← header_append] at hmem

theorem indentedBody?_append (hsame : '\n' ∉ sameLine) (front below : List Char) :
    indentedBody? (front ++ (sameLine ++ '\n' :: below)) (byteLength front) headerIndent
      = blockOf headerIndent (byteLength front + byteLength sameLine + 1)
          (byteLength (front ++ (sameLine ++ '\n' :: below)))
          (placeLines (byteLength front + byteLength sameLine + 1) (lineChunks below)) := by
  have hbelow : (sameLine ++ '\n' :: below).drop (sameLine.length + 1) = below := by
    rw [List.drop_append, List.drop_of_length_le (Nat.le_succ _), Nat.add_sub_cancel_left]
    rfl
  rw [indentedBody?, takeBytes_append, dropBytes_append]
  dsimp only
  rw [takeWhile_append_cons hsame, if_pos (by rw [List.length_append, List.length_cons]; omega),
    hbelow]
  rfl

/-- Below a header, what is found is the block, unless it has no significant line. -/
theorem exists_isBlock (headerIndent : Nat) (h : OnBoundary cs headerEnd)
    (hnewline : '\n' ∈ dropBytes headerEnd cs) :
    ∃ start stop, IsBlock cs headerEnd headerIndent start stop
      ∧ (indentedBody? cs headerEnd headerIndent = none
        ↔ ∀ offset line, IsLineIn cs start stop offset line → ¬IsSignificant line)
      ∧ ∀ body, indentedBody? cs headerEnd headerIndent = some body →
        body.start = start ∧ body.stop = stop ∧ IsFirstIndent cs start stop body.indent := by
  obtain ⟨front, behind, rfl, rfl⟩ := h
  rw [dropBytes_append] at hnewline
  obtain ⟨sameLine, below, rfl, hsame⟩ := List.eq_append_cons_of_mem hnewline
  have hlines := pairwise_placeLines (byteLength front + byteLength sameLine + 1) below
  have hmem := mem_placeLines_below front sameLine below
  have hlength : ∀ entry ∈ placeLines _ (lineChunks below), entry.1 < byteLength _ :=
    fun entry hentry => ((hmem entry.1 entry.2).mp hentry).1.lt
  refine ⟨_, _, isBlock_stopOf ⟨front, sameLine, below, rfl, rfl, hsame, rfl⟩ hlines hmem, ?_, ?_⟩
  · rw [indentedBody?_append hsame, blockOf_eq_none_iff hlines hlength]
    simp only [Prod.forall, hmem, IsLineIn, and_imp]
  · intro body hbody
    rw [indentedBody?_append hsame] at hbody
    obtain ⟨hstart, hstop, ⟨first, line⟩, hfirst, hlt, hsignificant, hindent, hleast⟩ :=
      blockOf_eq_some hlines hlength hbody
    rw [hstop] at hlt hleast
    obtain ⟨hline, hle⟩ := (hmem first line).mp hfirst
    refine ⟨hstart, hstop, first, line, ⟨hline, hle, hlt⟩, hsignificant, hindent, ?_⟩
    exact fun offset other ⟨hother, hle, hlt⟩ =>
      hleast (offset, other) ((hmem offset other).mpr ⟨hother, hle⟩) hlt

/-! ### Members of a block -/

/-- A block with what comes before and behind it: it begins behind a newline, and ends behind one
or with the text. -/
theorem IsBlock.exists_parts (h : IsBlock cs headerEnd headerIndent start stop) :
    ∃ front middle back, cs = front ++ (middle ++ back) ∧ EndsLine front
      ∧ (EndsLine middle ∨ back = []) ∧ start = byteLength front
      ∧ stop = byteLength front + byteLength middle := by
  obtain ⟨front, below, rfl, hfront, rfl⟩ := h.begins.exists_header
  rcases h.ends with hstop | ⟨line, hline, -⟩
  · refine ⟨front, below, [], ?_, hfront, .inr rfl, rfl, ?_⟩
    · rw [List.append_nil]
    · rw [hstop, byteLength_append]
  · obtain ⟨n, hstop, middle, after, rfl, rfl, hmiddle, -⟩ :=
      (isLineAt_append_iff hfront).mp ⟨hline, h.le⟩
    exact ⟨front, middle, line ++ after, by rw [List.append_assoc], hfront, .inl hmiddle, rfl,
      hstop⟩

theorem pairwise_indentedLines (cs : List Char) (body : IndentedBody) :
    (indentedLines cs body).Pairwise (· < ·) :=
  List.pairwise_map.mpr ((pairwise_placeLines body.start _).filter _)

theorem mem_indentedLines_iff {body : IndentedBody}
    (h : IsBlock cs headerEnd headerIndent body.start body.stop) :
    offset ∈ indentedLines cs body
      ↔ ∃ line, IsLineIn cs body.start body.stop offset line
        ∧ (∃ c ∈ line, isBlank c = false) ∧ indentWidth line = body.indent := by
  have hkept : ∀ line, (!(trim line).isEmpty && indentWidth line == body.indent) = true
      ↔ (∃ c ∈ line, isBlank c = false) ∧ indentWidth line = body.indent := fun line => by
    rw [Bool.and_eq_true, beq_iff_eq, Bool.not_eq_true', ← Bool.not_eq_true, List.isEmpty_iff,
      trim_eq_nil_iff, List.all_eq_true]
    simp
  obtain ⟨front, middle, back, rfl, hfront, hmiddle, hstart, hstop⟩ := h.exists_parts
  rw [indentedLines, hstart, hstop, ← List.append_assoc, cut_append, List.append_assoc]
  simp only [List.mem_map, List.mem_filter, Prod.exists, hkept, mem_placeLines_cut hfront hmiddle]
  constructor
  · rintro ⟨offset, line, hline, rfl⟩
    exact ⟨line, hline⟩
  · rintro ⟨line, hline⟩
    exact ⟨offset, line, hline, rfl⟩

/-- The block below a header is found unless it has no significant line, with the indentation of
its first one, and its members are its lines with that indentation that are not blank. -/
theorem indentedBody?_maximal (cs : List Char) (headerEnd headerIndent : Nat)
    (h : OnBoundary cs headerEnd) :
    (indentedBody? cs headerEnd headerIndent = none
      ↔ '\n' ∉ dropBytes headerEnd cs
        ∨ ∃ start stop, IsBlock cs headerEnd headerIndent start stop
          ∧ ∀ offset line, IsLineIn cs start stop offset line → ¬IsSignificant line)
    ∧ ∀ body, indentedBody? cs headerEnd headerIndent = some body →
      IsBlock cs headerEnd headerIndent body.start body.stop
      ∧ IsFirstIndent cs body.start body.stop body.indent
      ∧ (indentedLines cs body).Pairwise (· < ·)
      ∧ ∀ offset, offset ∈ indentedLines cs body
        ↔ ∃ line, IsLineIn cs body.start body.stop offset line
          ∧ (∃ c ∈ line, isBlank c = false) ∧ indentWidth line = body.indent := by
  by_cases hnewline : '\n' ∈ dropBytes headerEnd cs
  · obtain ⟨start, stop, hblock, hnone, hsome⟩ := exists_isBlock headerIndent h hnewline
    constructor
    · rw [hnone, or_iff_right (not_not_intro hnewline)]
      constructor
      · exact fun hempty => ⟨start, stop, hblock, hempty⟩
      · rintro ⟨start', stop', hblock', hempty⟩
        obtain ⟨rfl, rfl⟩ := hblock.unique hblock'
        exact hempty
    · intro body hbody
      obtain ⟨rfl, rfl, hindent⟩ := hsome body hbody
      exact ⟨hblock, hindent, pairwise_indentedLines cs body, fun _ => mem_indentedLines_iff hblock⟩
  · have hnone := indentedBody?_of_not_mem headerIndent hnewline
    refine ⟨iff_of_true hnone (.inl hnewline), fun body hbody => ?_⟩
    rw [hnone] at hbody
    cases hbody

/-- A block with comments at three depths, a blank line and a deeper line. -/
def commentedBlock : List Char :=
  "class Café:\r\n# a\r\n\r\n\tx = 1\r\n  # é\r\n\t\tz = 2\r\n\t# b\r\n\ty = 3\r\nafter".toList

theorem indentedBody?_maximal_commentedBlock :
    OnBoundary commentedBlock 12 ∧ indentedBody? commentedBlock 12 0 = some ⟨14, 60, 1⟩
      ∧ indentedLines commentedBlock ⟨14, 60, 1⟩ = [21, 46, 52]
      ∧ IsBlock commentedBlock 12 0 14 60 ∧ IsFirstIndent commentedBlock 14 60 1 := by
  have hboundary : OnBoundary commentedBlock 12 := isBoundary_iff.mp (by decide)
  have hbody : indentedBody? commentedBlock 12 0 = some ⟨14, 60, 1⟩ := by decide
  obtain ⟨hblock, hindent, -⟩ := (indentedBody?_maximal commentedBlock 12 0 hboundary).2 _ hbody
  exact ⟨hboundary, hbody, by decide, hblock, hindent⟩

/-- What follows on the line of the header is no part of the block. -/
example : indentedBody? "class A: pass\nx = 1\n".toList 8 0 = none := by decide

end SourceRetrieval.Outline
