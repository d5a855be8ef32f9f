/-
Bodies and specifiers read by slices.

* `Checked` reads them from texts taken by slices, and stops at the first one with a bound off a
  boundary;
* `specifiers_eq_ok` — the strings in quotes can always be taken;
* `bodyOf?_eq_ok` — behind a boundary the text of a body can be taken, and gives the body;
* `isPlaced_of_bodyOf?` — it lies between boundaries, and so does each of its lines.

Design notes: the scans for braces, lines and indentation are those of the extraction.  Only what
they are given is taken by a slice where the extraction cuts.
-/
import SourceRetrieval.Proofs.Outline.Braces
import SourceRetrieval.Proofs.Outline.Quotes
import SourceRetrieval.Proofs.Text.Lines
import SourceRetrieval.Proofs.Text.Slice

namespace SourceRetrieval

open Text Outline

/-! ### Specifiers -/

namespace Checked

/-- The strings in quotes in the rest, that begins at offset `start`, of the text `raw`. -/
def quotedFrom (raw : List Char) (skip start : Nat) : List Char → Except Misplaced (List String)
  | [] => return []
  | c :: cs =>
    match skip with
    | rest + 1 => quotedFrom raw rest (start + c.utf8Size) cs
    | 0 =>
      if c == '"' || c == '\'' then
        let inner := cs.takeWhile (· != c)
        if inner.length < cs.length then do
          let value ← slice raw (start + 1) (start + c.utf8Size + byteLength inner)
          let later ← quotedFrom raw (inner.length + 1) (start + c.utf8Size) cs
          return if value.isEmpty then later else String.ofList value :: later
        else return []
      else quotedFrom raw 0 (start + c.utf8Size) cs

/-- The specifiers that the text of a group stands for. -/
def specifiers (mode : SpecifierMode) (raw : List Char) : Except Misplaced (List String) :=
  match mode with
  | .quotedList => quotedFrom raw 0 0 raw
  | mode => return Outline.specifiers mode raw

theorem quotedFrom_eq_ok (before : List Char) (skip : Nat) (cs : List Char) :
    quotedFrom (before ++ cs) skip (byteLength before) cs = .ok (Outline.quotedFrom skip cs) := by
  induction cs generalizing before skip with
  | nil => rfl
  | cons c cs ih =>
    -- The rest begins where the next character ends.
    have hlater : ∀ skip, quotedFrom (before ++ c :: cs) skip (byteLength before + c.utf8Size) cs
        = .ok (Outline.quotedFrom skip cs) := by
      intro skip
      have hrest := ih (before ++ [c]) skip
      rwa [List.append_assoc, List.singleton_append, byteLength_append, byteLength_cons,
        byteLength_nil, Nat.add_zero] at hrest
    cases skip with
    | succ rest => exact hlater rest
    | zero =>
      rw [quotedFrom, Outline.quotedFrom]
      by_cases hquote : (c == '"' || c == '\'') = true
      · rw [if_pos hquote, if_pos hquote]
        dsimp only
        by_cases hclosed : (cs.takeWhile (· != c)).length < cs.length
        · have hvalue : slice (before ++ c :: cs) (byteLength before + 1)
              (byteLength before + c.utf8Size + byteLength (cs.takeWhile (· != c)))
                = .ok (cs.takeWhile (· != c)) := by
            have hsize : c.utf8Size = 1 := by
              rcases isQuote_iff.mpr hquote with rfl | rfl <;> rfl
            obtain ⟨after, hafter⟩ := List.takeWhile_prefix (l := cs) (· != c)
            have hslice := slice_append (before ++ [c]) (cs.takeWhile (· != c)) after
            rw [List.append_assoc, hafter, List.append_assoc, List.singleton_append,
              byteLength_append, byteLength_cons, byteLength_nil, Nat.add_zero] at hslice
            rwa [hsize] at hslice ⊢
          rw [if_pos hclosed, if_pos hclosed, hvalue, hlater]
          cases hinner : cs.takeWhile (· != c) with
          | nil => rfl
          | cons d inner => rfl
        · rw [if_neg hclosed, if_neg hclosed]
          rfl
      · rw [if_neg hquote, if_neg hquote]
        exact hlater 0

theorem specifiers_eq_ok (mode : SpecifierMode) (raw : List Char) :
    specifiers mode raw = .ok (Outline.specifiers mode raw) := by
  cases mode with
  | quotedList => exact quotedFrom_eq_ok [] 0 raw
  | single | commaList | nameList => rfl

/-! ### Bodies -/

/-- The body in braces behind a name. -/
def bracedBody? (cs : List Char) (nameEnd : Nat) : Except Misplaced (Option Body) := do
  let after ← slice cs nameEnd (byteLength cs)
  match openingBrace? nameEnd after with
  | none => return none
  | some (opening, rest) =>
    let closing := (closingBrace? 0 (codeFrom isMark 0 opening rest)).getD (byteLength cs)
    let inside ← slice cs (opening + 1) closing
    let marks := codeFrom isMark 0 (opening + 1) inside
    return some ⟨opening, closing, (opening + 1) :: levelLines closing 0 marks⟩

/-- The block below a header. -/
def indentedBody? (cs : List Char) (headerEnd headerIndent : Nat) :
    Except Misplaced (Option Body) := do
  let after ← slice cs headerEnd (byteLength cs)
  let sameLine := after.takeWhile (· != '\n')
  if sameLine.length < after.length then
    let start := headerEnd + byteLength sameLine + 1
    let below ← slice cs start (byteLength cs)
    let lines := placeLines start (lineChunks below)
    let ends := fun (line : Nat × List Char) =>
      isSignificant line.2 && indentWidth line.2 ≤ headerIndent
    let stop := match lines.find? ends with
      | some (offset, _) => offset
      | none => byteLength cs
    match (lines.takeWhile (!ends ·)).find? (isSignificant ·.2) with
    | none => return none
    | some first =>
      let inside ← slice cs start stop
      let members := (placeLines start (lineChunks inside)).filter fun (_, line) =>
        !(trim line).isEmpty && indentWidth line == indentWidth first.2
      return some ⟨start, stop, members.map (·.1)⟩
  else return none

/-- The body of a class. -/
def bodyOf? (source : Source) (nameEnd headerEnd headerIndent : Nat) :
    Except Misplaced (Option Body) :=
  match source.set.body with
  | .braces => bracedBody? source.chars nameEnd
  | .indentation => indentedBody? source.chars headerEnd headerIndent

end Checked

/-- A body lies between two boundaries, and its lines begin on boundaries within it. -/
structure Outline.Body.IsPlaced (body : Body) (cs : List Char) : Prop where
  start : OnBoundary cs body.start
  stop : OnBoundary cs body.stop
  le : body.start ≤ body.stop
  lines : ∀ line ∈ body.lines, OnBoundary cs line ∧ line ≤ body.stop

variable {cs : List Char} {nameEnd headerEnd headerIndent : Nat}

/-! ### Bodies in braces -/

section Braces

variable {opening closing : Nat} {body rest : List Char}

/-- Each line directly inside braces begins behind the opening brace or behind a newline. -/
theorem Outline.IsBody.isPlaced (h : IsBody cs opening closing body rest) :
    Body.IsPlaced ⟨opening, closing, braceLines cs opening closing⟩ cs := by
  have hdrop := h.dropBytes_opening
  have hlines := h.braceLines_eq
  obtain ⟨⟨before, hcs, rfl⟩, rfl, -, -, -⟩ := h
  have hopening : OnBoundary cs (byteLength before + 1) := by
    rw [hcs]
    exact onBoundary_behind before '\x7b' _
  refine ⟨?_, ?_, by dsimp only; omega, fun line hline => ?_⟩
  · rw [hcs]
    exact onBoundary_append _ _
  · have hclosing := (onBoundary_append body rest).append (before ++ ['\x7b'])
    rwa [byteLength_append, List.append_assoc, List.singleton_append, ← hcs] at hclosing
  · rw [show braceLines cs _ _ = _ from hlines] at hline
    rcases List.mem_cons.mp hline with rfl | hline
    · exact ⟨hopening, by dsimp only; omega⟩
    · obtain ⟨mark, hmark, rfl⟩ := List.mem_map.mp hline
      obtain ⟨hcode, hkept⟩ := List.mem_filter.mp hmark
      obtain ⟨hnewline, -, hlt, -⟩ := of_decide_eq_true hkept
      obtain ⟨front, back, hsplit, hoffset, -⟩ := exists_of_mem_codeFrom hcode
      rw [hnewline] at hsplit
      rw [hoffset] at hlt ⊢
      refine ⟨?_, Nat.le_of_lt hlt⟩
      have hbehind := (onBoundary_behind front '\n' back).append before
      rwa [← hsplit, hdrop, ← hcs, ← Nat.add_assoc] at hbehind

theorem Checked.bracedBody?_eq_ok (h : OnBoundary cs nameEnd) :
    Checked.bracedBody? cs nameEnd = .ok ((braceBody? cs nameEnd).map fun (opening, closing) =>
      ⟨opening, closing, braceLines cs opening closing⟩) := by
  have hstart : byteLength (takeBytes nameEnd cs) = nameEnd := beq_iff_eq.mp (isBoundary_iff.mpr h)
  rw [Checked.bracedBody?, slice_to_end h]
  show (match openingBrace? nameEnd (dropBytes nameEnd cs) with
    | none => _
    | some (opening, rest) => _) = _
  cases hopening : openingBrace? nameEnd (dropBytes nameEnd cs) with
  | none =>
    have hbody : braceBody? cs nameEnd = none := by
      rw [braceBody?, hstart, hopening]
      rfl
    rw [hbody]
    rfl
  | some found =>
    obtain ⟨opening, rest⟩ := found
    have hbody : braceBody? cs nameEnd = some (opening,
        (closingBrace? 0 (codeFrom isMark 0 opening rest)).getD (byteLength cs)) := by
      rw [braceBody?, hstart, hopening]
      rfl
    obtain ⟨-, body, later, hsplit⟩ := braceBody?_eq_some hbody
    have hplaced := hsplit.isPlaced
    have hinside := slice_eq_ok (hplaced.lines (opening + 1) List.mem_cons_self).1 hplaced.stop
      (hplaced.lines (opening + 1) List.mem_cons_self).2
    dsimp only at hinside ⊢
    rw [hinside, hbody]
    rfl

end Braces

/-! ### Bodies by indentation -/

section Indentation

variable {start : Nat}

theorem flatten_lineChunks (cs : List Char) : (lineChunks cs).flatten = cs := by
  induction cs with
  | nil => rfl
  | cons c cs ih =>
    show (lineChunks.step c (lineChunks cs)).flatten = c :: cs
    unfold lineChunks.step
    split
    next hc => rw [List.flatten_cons, ih, hc, List.singleton_append]
    · cases hchunks : lineChunks cs with
      | nil =>
        rw [hchunks] at ih
        rw [← ih]
        rfl
      | cons chunk others =>
        rw [hchunks] at ih
        dsimp only
        rw [← ih, List.flatten_cons, List.flatten_cons, List.cons_append]

/-- Lines begin on boundaries. -/
theorem onBoundary_of_mem_placeLines {chunks : List (List Char)} {line : Nat × List Char}
    (h : line ∈ placeLines start chunks) : ∃ n, line.1 = start + n ∧ OnBoundary chunks.flatten n := by
  induction chunks generalizing start with
  | nil => cases h
  | cons chunk others ih =>
    rcases List.mem_cons.mp h with rfl | h
    · exact ⟨0, rfl, onBoundary_append [] _⟩
    · obtain ⟨n, hline, hn⟩ := ih h
      exact ⟨byteLength chunk + n, by omega, hn.append chunk⟩

/-- The line of a header ends, and below it the text goes on. -/
theorem exists_below {after : List Char}
    (h : (after.takeWhile (· != '\n')).length < after.length) :
    after = after.takeWhile (· != '\n')
      ++ '\n' :: after.drop ((after.takeWhile (· != '\n')).length + 1) := by
  induction after with
  | nil => cases h
  | cons c after ih =>
    by_cases hc : c = '\n'
    · subst hc
      rfl
    · rw [List.takeWhile_cons_of_pos (by simpa using hc)] at h ⊢
      rw [List.length_cons, List.drop_succ_cons, List.cons_append,
        ← ih (Nat.lt_of_succ_lt_succ h)]

theorem header_append (front sameLine below : List Char) :
    front ++ (sameLine ++ '\n' :: below) = front ++ sameLine ++ ['\n'] ++ below := by
  rw [← List.append_assoc, List.append_cons]

theorem byteLength_header (front sameLine : List Char) :
    byteLength (front ++ sameLine ++ ['\n']) = byteLength front + byteLength sameLine + 1 := by
  rw [byteLength_concat_newline, byteLength_append]

/-- Where the text below a header begins. -/
theorem onBoundary_below (h : OnBoundary cs headerEnd) {sameLine below : List Char}
    (hbelow : dropBytes headerEnd cs = sameLine ++ '\n' :: below) :
    OnBoundary cs (headerEnd + byteLength sameLine + 1)
      ∧ dropBytes (headerEnd + byteLength sameLine + 1) cs = below := by
  obtain ⟨front, after, rfl, rfl⟩ := h
  rw [dropBytes_append] at hbelow
  rw [hbelow, header_append, ← byteLength_header, dropBytes_append]
  exact ⟨onBoundary_append _ _, rfl⟩

/-- A line of the text behind a boundary begins on a boundary. -/
theorem onBoundary_of_mem_lines (hstart : OnBoundary cs start) {line : Nat × List Char}
    (h : line ∈ placeLines start (lineChunks (dropBytes start cs))) :
    OnBoundary cs line.1 ∧ start ≤ line.1 := by
  obtain ⟨n, hline, hn⟩ := onBoundary_of_mem_placeLines h
  rw [flatten_lineChunks] at hn
  obtain ⟨front, after, rfl, rfl⟩ := hstart
  rw [dropBytes_append] at hn
  rw [hline]
  exact ⟨hn.append front, Nat.le_add_right _ _⟩

/-- A block below a header lies between boundaries. -/
theorem onBoundary_of_indentedBody? (h : OnBoundary cs headerEnd) {body : IndentedBody}
    (hbody : indentedBody? cs headerEnd headerIndent = some body) :
    OnBoundary cs body.start ∧ OnBoundary cs body.stop ∧ body.start ≤ body.stop := by
  have hheader : byteLength (takeBytes headerEnd cs) = headerEnd :=
    beq_iff_eq.mp (isBoundary_iff.mpr h)
  rw [indentedBody?, hheader] at hbody
  dsimp only at hbody
  split at hbody
  next hlt =>
    obtain ⟨first, -, hbody⟩ := Option.bind_eq_some_iff.mp hbody
    cases hbody
    obtain ⟨hstart, hbelow⟩ := onBoundary_below h (exists_below hlt)
    rw [← hbelow]
    dsimp only
    refine ⟨hstart, ?_⟩
    split
    next hfound =>
      exact onBoundary_of_mem_lines hstart (List.mem_of_find?_eq_some hfound)
    next => exact ⟨onBoundary_byteLength cs, hstart.le⟩
  · cases hbody

theorem isPlaced_of_indentedBody? (h : OnBoundary cs headerEnd) {body : IndentedBody}
    (hbody : indentedBody? cs headerEnd headerIndent = some body) :
    Body.IsPlaced ⟨body.start, body.stop, indentedLines cs body⟩ cs := by
  obtain ⟨hstart, hstop, hle⟩ := onBoundary_of_indentedBody? h hbody
  refine ⟨hstart, hstop, hle, fun line hline => ?_⟩
  obtain ⟨entry, hentry, rfl⟩ := List.mem_map.mp hline
  obtain ⟨n, hoffset, hn⟩ := onBoundary_of_mem_placeLines (List.mem_filter.mp hentry).1
  rw [flatten_lineChunks] at hn
  obtain ⟨before, middle, after, rfl, hbefore, hmiddle⟩ := hstart.exists_between hstop hle
  rw [hbefore, hmiddle, cut_append] at hn
  have hlength := hn.le
  obtain ⟨front, back, rfl, rfl⟩ := hn
  refine ⟨?_, by dsimp only; omega⟩
  rw [hoffset, hbefore, List.append_assoc, List.append_assoc]
  exact (onBoundary_append front _).append before

theorem Checked.indentedBody?_eq_ok (h : OnBoundary cs headerEnd) (headerIndent : Nat) :
    Checked.indentedBody? cs headerEnd headerIndent
      = .ok ((Outline.indentedBody? cs headerEnd headerIndent).map fun body =>
        ⟨body.start, body.stop, indentedLines cs body⟩) := by
  have hheader : byteLength (takeBytes headerEnd cs) = headerEnd :=
    beq_iff_eq.mp (isBoundary_iff.mpr h)
  have hplaced := @onBoundary_of_indentedBody? cs headerEnd headerIndent h
  rw [Checked.indentedBody?, slice_to_end h, ok_bind]
  rw [Outline.indentedBody?, hheader] at hplaced ⊢
  dsimp only at hplaced ⊢
  by_cases hlt : ((dropBytes headerEnd cs).takeWhile (· != '\n')).length
      < (dropBytes headerEnd cs).length
  · obtain ⟨hstart, hbelow⟩ := onBoundary_below h (exists_below hlt)
    rw [if_pos hlt] at hplaced ⊢
    rw [if_pos hlt, slice_to_end hstart, ok_bind, hbelow]
    split
    next hnone =>
      rw [hnone]
      rfl
    next first hfirst =>
      rw [hfirst] at hplaced ⊢
      obtain ⟨-, hstop, hle⟩ := hplaced rfl
      exact congrArg (fun inside : Except Misplaced (List Char) => inside >>= _)
        (slice_eq_ok hstart hstop hle)
  · rw [if_neg hlt, if_neg hlt]
    rfl

end Indentation

/-! ### Bodies of either style -/

theorem Checked.bodyOf?_eq_ok {source : Source} (hname : OnBoundary source.chars nameEnd)
    (hheader : OnBoundary source.chars headerEnd) (headerIndent : Nat) :
    Checked.bodyOf? source nameEnd headerEnd headerIndent
      = .ok (Outline.bodyOf? source nameEnd headerEnd headerIndent) := by
  rw [Checked.bodyOf?, Outline.bodyOf?]
  cases source.set.body with
  | braces => exact bracedBody?_eq_ok hname
  | indentation => exact indentedBody?_eq_ok hheader headerIndent

theorem isPlaced_of_bodyOf? {source : Source} (hheader : OnBoundary source.chars headerEnd)
    {body : Body} (h : bodyOf? source nameEnd headerEnd headerIndent = some body) :
    body.IsPlaced source.chars := by
  rw [bodyOf?] at h
  cases hstyle : source.set.body with
  | braces =>
    rw [hstyle] at h
    obtain ⟨⟨opening, closing⟩, hbounds, rfl⟩ := Option.map_eq_some_iff.mp h
    obtain ⟨-, _, _, hbody⟩ := braceBody?_eq_some hbounds
    exact hbody.isPlaced
  | indentation =>
    rw [hstyle] at h
    obtain ⟨block, hblock, rfl⟩ := Option.map_eq_some_iff.mp h
    exact isPlaced_of_indentedBody? hheader hblock

end SourceRetrieval
