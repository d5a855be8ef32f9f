/-
Bodies between braces.

* `IsFirstBrace` — the brace that opens a body, by offsets alone;
* `braceBody?_eq_some` — the text before a body, the body and what follows, each with its
  own scan;
* `braceBody?_matches` — the braces of a body match, and the lines directly inside are
  those at depth one.

Design notes: the scan of a body alone stops before a closing brace or at the end of the
text.  Neither is the second character of what begins a comment, so a look-ahead that stops
at the end of the body and one that does not agree.
-/
import Mathlib.Data.List.Basic
import SourceRetrieval.Proofs.Outline.Depth
import SourceRetrieval.Proofs.Text.Occurrences

namespace SourceRetrieval.Outline

open Text

variable {cs rest : List Char} {code front : List (Nat × Char)} {mark : Nat × Char}
  {start offset opening closing i : Nat}

/-! ### The braces of a body -/

/-- The first opening brace at or behind an offset, with no semicolon in between. -/
structure IsFirstBrace (cs : List Char) (offset opening : Nat) : Prop where
  brace : StandsAt ['\x7b'] cs opening
  le : offset ≤ opening
  first : ∀ c i, StandsAt [c] cs i → offset ≤ i → i < opening → c ≠ '\x7b' ∧ c ≠ ';'

theorem openingBrace?_eq_some (h : openingBrace? start cs = some (opening, rest)) :
    ∃ front tail, cs = front ++ '\x7b' :: tail ∧ rest = '\x7b' :: tail
      ∧ opening = start + byteLength front ∧ ∀ c ∈ front, c ≠ '\x7b' ∧ c ≠ ';' := by
  induction cs generalizing start with
  | nil => cases h
  | cons c cs ih =>
    rw [openingBrace?] at h
    split at h
    next hbrace =>
      obtain rfl := eq_of_beq hbrace
      cases h
      exact ⟨[], cs, rfl, rfl, rfl, nofun⟩
    next hbrace =>
      split at h
      · cases h
      next hsemicolon =>
        obtain ⟨front, tail, rfl, hrest, hopening, hfront⟩ := ih h
        refine ⟨c :: front, tail, rfl, hrest, ?_, List.forall_mem_cons.mpr ⟨⟨?_, ?_⟩, hfront⟩⟩
        · rw [hopening, byteLength_cons, Nat.add_assoc]
        · simpa using hbrace
        · simpa using hsemicolon

theorem openingBrace?_append {before tail : List Char}
    (h : ∀ c ∈ before, c ≠ '\x7b' ∧ c ≠ ';') :
    openingBrace? start (before ++ '\x7b' :: tail)
      = some (start + byteLength before, '\x7b' :: tail) := by
  induction before generalizing start with
  | nil => rfl
  | cons c before ih =>
    obtain ⟨⟨hbrace, hsemicolon⟩, hbefore⟩ := List.forall_mem_cons.mp h
    rw [List.cons_append, openingBrace?, if_neg (by simpa using hbrace),
      if_neg (by simpa using hsemicolon), ih hbefore, byteLength_cons, Nat.add_assoc]

theorem standsAt_singleton {c : Char} :
    StandsAt [c] cs i ↔ ∃ before after, cs = before ++ c :: after ∧ i = byteLength before := by
  simp only [StandsAt, List.append_assoc, List.singleton_append]

/-- An offset inside a character leaves that character, which is neither a brace nor a semicolon,
behind it. -/
theorem IsFirstBrace.exists_split (h : IsFirstBrace cs offset opening) :
    ∃ front tail, dropBytes offset cs = front ++ '\x7b' :: tail
      ∧ opening = byteLength (takeBytes offset cs) + byteLength front
      ∧ ∀ c ∈ front, c ≠ '\x7b' ∧ c ≠ ';' := by
  obtain ⟨before, tail, hcs, rfl⟩ := standsAt_singleton.mp h.brace
  have htake := Nat.le_trans (byteLength_takeBytes_le offset cs) h.le
  obtain ⟨front, rfl⟩ :=
    isPrefix_of_byteLength_le (isPrefix_takeBytes offset cs) ⟨_, hcs.symm⟩ htake
  have hdrop : dropBytes offset cs = front ++ '\x7b' :: tail := by
    have hsplit := (takeBytes_append_dropBytes offset cs).trans hcs
    rw [List.append_assoc] at hsplit
    exact List.append_cancel_left hsplit
  refine ⟨front, tail, hdrop, byteLength_append _ _, fun c hc => ?_⟩
  obtain ⟨front, back, rfl⟩ := List.append_of_mem hc
  rw [List.append_assoc, List.cons_append] at hdrop
  obtain hle | hsize := le_or_of_dropBytes hdrop
  · have hstands : StandsAt [c] cs (byteLength (takeBytes offset cs ++ front)) := by
      refine standsAt_singleton.mpr ⟨_, back ++ '\x7b' :: tail, ?_, rfl⟩
      rw [List.append_assoc, ← hdrop, takeBytes_append_dropBytes]
    refine h.first c _ hstands ?_ ?_
    · rwa [byteLength_append]
    · have hc := c.utf8Size_pos
      rw [← List.append_assoc, byteLength_append _ (c :: back), byteLength_cons]
      omega
  · constructor <;> rintro rfl <;> exact absurd hsize (by decide)

theorem isFirstBrace_of_split {front tail : List Char}
    (hdrop : dropBytes offset cs = front ++ '\x7b' :: tail)
    (hfront : ∀ c ∈ front, c ≠ '\x7b' ∧ c ≠ ';') :
    IsFirstBrace cs offset (byteLength (takeBytes offset cs) + byteLength front) := by
  have hcs : cs = (takeBytes offset cs ++ front) ++ '\x7b' :: tail := by
    rw [List.append_assoc, ← hdrop, takeBytes_append_dropBytes]
  have hle := (le_or_of_dropBytes hdrop).resolve_right (by decide)
  rw [← byteLength_append] at hle ⊢
  refine ⟨standsAt_singleton.mpr ⟨_, tail, hcs, rfl⟩, hle, fun c i hc hi hlt => ?_⟩
  obtain ⟨before, after, hbefore, rfl⟩ := standsAt_singleton.mp hc
  have htake := Nat.le_trans (byteLength_takeBytes_le offset cs) hi
  obtain ⟨middle, rfl⟩ :=
    isPrefix_of_byteLength_le (isPrefix_takeBytes offset cs) ⟨_, hbefore.symm⟩ htake
  obtain ⟨rest, hrest⟩ :=
    isPrefix_of_byteLength_le ⟨_, hbefore.symm⟩ ⟨_, hcs.symm⟩ (Nat.le_of_lt hlt)
  -- The character is the first one of what lies between its offset and the brace.
  have hsame : rest ++ '\x7b' :: tail = c :: after := by
    have hboth : (takeBytes offset cs ++ middle) ++ (rest ++ '\x7b' :: tail)
        = (takeBytes offset cs ++ middle) ++ c :: after := by
      rw [← List.append_assoc, hrest, ← hcs, ← hbefore]
    exact List.append_cancel_left hboth
  cases rest with
  | nil =>
    rw [← hrest, List.append_nil] at hlt
    exact absurd hlt (Nat.lt_irrefl _)
  | cons d rest =>
    obtain ⟨rfl, -⟩ := List.cons_eq_cons.mp hsame
    rw [List.append_assoc] at hrest
    rw [← List.append_cancel_left hrest] at hfront
    exact hfront d (List.mem_append_right _ List.mem_cons_self)

/-! ### The body -/

/-- The text around a body with the scan of the body: its braces balance, and none of them closes
the one in front of it. -/
structure IsBody (cs : List Char) (opening closing : Nat) (body rest : List Char) : Prop where
  text : ∃ before, cs = before ++ '\x7b' :: (body ++ rest) ∧ byteLength before = opening
  stop : opening + 1 + byteLength body = closing
  scan : codeOf (opening + 1) (body ++ rest)
    = codeOf (opening + 1) body ++ codeOf closing rest
  nonneg : ∀ front, front <+: codeOf (opening + 1) body → 0 ≤ balance front
  ends : rest = [] ∨ balance (codeOf (opening + 1) body) = 0
    ∧ ∃ after, rest = '\x7d' :: after

theorem isBody_of_eq_some {before tail : List Char} (hcs : cs = before ++ '\x7b' :: tail)
    (h : closingBrace? 1 (codeOf (byteLength before + 1) tail) = some closing) :
    ∃ body rest, IsBody cs (byteLength before) closing body rest := by
  obtain ⟨inner, later, hcode, hinner, hfront⟩ := closingBrace?_eq_some (Nat.le_refl 1) h
  have hmem : (closing, '\x7d') ∈ codeOf (byteLength before + 1) tail := by
    rw [hcode]
    exact List.mem_append_right _ List.mem_cons_self
  obtain ⟨body, after, rfl, rfl, -⟩ := exists_of_mem_codeFrom hmem
  have hscan := codeOf_append hmem
  -- The closing brace stands in the scan once, so what comes before it is the scan of the body.
  have hsame : inner = codeOf (byteLength before + 1) body := by
    have hpair := pairwise_codeOf (byteLength before + 1) (body ++ '\x7d' :: after)
    rw [hcode, List.pairwise_append, List.pairwise_cons] at hpair
    obtain ⟨-, ⟨hlater, -⟩, hinner⟩ := hpair
    rw [hcode, codeOf_closing] at hscan
    refine ((List.append_cons_inj_of_notMem (fun hin => ?_) fun hin => ?_).mp hscan).1
    · exact Nat.lt_irrefl _ (hinner _ hin _ List.mem_cons_self)
    · exact Nat.lt_irrefl _ (hlater _ hin)
  subst hsame
  refine ⟨body, '\x7d' :: after, ⟨before, hcs, rfl⟩, rfl, hscan, fun front hbegins => ?_, .inr ?_⟩
  · have hbound := hfront front hbegins
    omega
  · exact ⟨by omega, after, rfl⟩

theorem isBody_of_eq_none {before tail : List Char} (hcs : cs = before ++ '\x7b' :: tail)
    (h : closingBrace? 1 (codeOf (byteLength before + 1) tail) = none) :
    IsBody cs (byteLength before) (byteLength cs) tail [] := by
  refine ⟨⟨before, by rwa [List.append_nil], rfl⟩, ?_, ?_, fun front hbegins => ?_, .inl rfl⟩
  · rw [hcs, byteLength_append, byteLength_cons, Nat.add_assoc]
    rfl
  · rw [List.append_nil, codeOf_nil, List.append_nil]
  · have hbound := closingBrace?_eq_none (Nat.le_refl 1) h hbegins
    omega

theorem braceBody?_eq_some (h : braceBody? cs offset = some (opening, closing)) :
    IsFirstBrace cs offset opening ∧ ∃ body rest, IsBody cs opening closing body rest := by
  rw [braceBody?] at h
  obtain ⟨⟨found, text⟩, hfound, h⟩ := Option.bind_eq_some_iff.mp h
  obtain ⟨rfl, hclosing⟩ := Prod.mk.inj (Option.some_inj.mp h)
  obtain ⟨front, tail, hdrop, rfl, rfl, hfront⟩ := openingBrace?_eq_some hfound
  refine ⟨isFirstBrace_of_split hdrop hfront, ?_⟩
  have hcs : cs = (takeBytes offset cs ++ front) ++ '\x7b' :: tail := by
    rw [List.append_assoc, ← hdrop, takeBytes_append_dropBytes]
  rw [codeFrom_eq_codeOf, closingBrace?_filter, codeOf_opening, ← byteLength_append] at hclosing
  rw [← byteLength_append]
  have hdepth : ∀ code,
      closingBrace? 0 ((byteLength (takeBytes offset cs ++ front), '\x7b') :: code)
        = closingBrace? 1 code := fun _ => rfl
  rw [hdepth] at hclosing
  cases hmatch : closingBrace? 1 (codeOf (byteLength (takeBytes offset cs ++ front) + 1) tail) with
  | some found =>
    rw [hmatch] at hclosing
    subst hclosing
    exact isBody_of_eq_some hcs hmatch
  | none =>
    rw [hmatch] at hclosing
    subst hclosing
    exact ⟨tail, [], isBody_of_eq_none hcs hmatch⟩

theorem exists_braceBody?_of_isFirstBrace (h : IsFirstBrace cs offset opening) :
    ∃ closing, braceBody? cs offset = some (opening, closing) := by
  obtain ⟨front, tail, hdrop, rfl, hfront⟩ := h.exists_split
  exact ⟨_, by rw [braceBody?, hdrop, openingBrace?_append hfront]; rfl⟩

namespace IsBody

variable {body : List Char}

theorem dropBytes_opening (h : IsBody cs opening closing body rest) :
    dropBytes opening cs = '\x7b' :: (body ++ rest) := by
  obtain ⟨⟨before, rfl, rfl⟩, -, -, -, -⟩ := h
  exact dropBytes_append before _

theorem cut_body (h : IsBody cs opening closing body rest) :
    cut (opening + 1) closing cs = body := by
  obtain ⟨⟨before, rfl, rfl⟩, rfl, -, -, -⟩ := h
  have hcut := cut_append (before ++ ['\x7b']) body rest
  rwa [byteLength_append, List.append_assoc, List.append_assoc] at hcut

/-- The opening brace, the body, and what follows from the closing brace on. -/
theorem code_eq (h : IsBody cs opening closing body rest) :
    codeOf opening (dropBytes opening cs)
      = (opening, '\x7b') :: (codeOf (opening + 1) body ++ codeOf closing rest) := by
  rw [h.dropBytes_opening, codeOf_opening, h.scan]

theorem lt_of_mem (h : IsBody cs opening closing body rest)
    (hmark : mark ∈ codeOf (opening + 1) body) : opening < mark.1 ∧ mark.1 < closing := by
  have hlt := lt_of_mem_codeFrom hmark
  rw [h.stop] at hlt
  exact ⟨le_of_mem_codeFrom hmark, hlt⟩

theorem depthAt_inside (h : IsBody cs opening closing body rest) (hopening : opening ≤ i)
    (hclosing : i < closing) :
    depthAt (codeOf opening (dropBytes opening cs)) i
      = 1 + depthAt (codeOf (opening + 1) body) i := by
  have hrest : depthAt (codeOf closing rest) i = 0 := depthAt_eq_zero fun mark hmark => by
    have hle : closing ≤ mark.1 := le_of_mem_codeFrom hmark
    omega
  rw [h.code_eq, depthAt_cons _ hopening, depthAt_append, hrest, Int.add_zero]
  rfl

theorem one_le_depthAt (h : IsBody cs opening closing body rest) (hopening : opening ≤ i)
    (hinside : i < closing ∨ rest = []) :
    1 ≤ depthAt (codeOf opening (dropBytes opening cs)) i := by
  have hnonneg := le_depthAt (pairwise_codeOf _ _) h.nonneg i
  obtain hlt | rfl := hinside
  · rw [h.depthAt_inside hopening hlt]
    omega
  · rw [h.code_eq, depthAt_cons _ hopening, depthAt_append]
    have hstep : braceStep '\x7b' = 1 := rfl
    have hrest : depthAt (codeOf closing []) i = 0 := rfl
    dsimp only
    omega

/-- What a scan gives strictly between the braces, the scan of the body gives. -/
theorem filter_code (h : IsBody cs opening closing body rest) {p : Nat × Char → Bool}
    (hp : ∀ mark, p mark = true → opening < mark.1 ∧ mark.1 < closing) :
    (codeOf opening (dropBytes opening cs)).filter p = (codeOf (opening + 1) body).filter p := by
  have hopening : ¬p (opening, '\x7b') = true := fun hmark => Nat.lt_irrefl _ (hp _ hmark).1
  have hrest : (codeOf closing rest).filter p = [] := by
    refine List.filter_eq_nil_iff.mpr fun mark hmark hkept => ?_
    have hle : closing ≤ mark.1 := le_of_mem_codeFrom hmark
    have hlt := (hp mark hkept).2
    omega
  rw [h.code_eq, List.filter_cons_of_neg hopening, List.filter_append, hrest, List.append_nil]

end IsBody

/-- The braces of a body match, and the lines directly inside are those at depth one.  The depths
are those of the scan of the text from the opening brace on. -/
structure IsBraceBody (cs : List Char) (offset opening closing : Nat) : Prop where
  first : IsFirstBrace cs offset opening
  inside : ∀ i, opening ≤ i → i < closing →
    1 ≤ depthAt (codeOf opening (dropBytes opening cs)) i
  closed : (closing, '\x7d') ∈ codeOf opening (dropBytes opening cs)
      ∧ depthAt (codeOf opening (dropBytes opening cs)) closing = 0
    ∨ closing = byteLength cs
      ∧ ∀ i, opening ≤ i → 1 ≤ depthAt (codeOf opening (dropBytes opening cs)) i
  /-- The scan of the body alone gives what the whole one gives inside. -/
  scan : ∀ keep, codeFrom keep 0 (opening + 1) (cut (opening + 1) closing cs)
    = (codeOf opening (dropBytes opening cs)).filter fun mark =>
        keep mark.2 ∧ opening < mark.1 ∧ mark.1 < closing
  /-- A closing brace inside closes one that was opened inside. -/
  unsaturated : ∀ front i later,
    codeFrom isMark 0 (opening + 1) (cut (opening + 1) closing cs) = front ++ (i, '\x7d') :: later →
      1 ≤ balance front
  lines : braceLines cs opening closing
    = (opening + 1) :: ((codeOf opening (dropBytes opening cs)).filter fun mark =>
        mark.2 = '\n' ∧ opening < mark.1 ∧ mark.1 + 1 < closing
          ∧ depthAt (codeOf opening (dropBytes opening cs)) mark.1 = 1).map (·.1 + 1)
  increasing : (braceLines cs opening closing).Pairwise (· < ·)

namespace IsBody

variable {body : List Char}

theorem closes (h : IsBody cs opening closing body rest) :
    (closing, '\x7d') ∈ codeOf opening (dropBytes opening cs)
        ∧ depthAt (codeOf opening (dropBytes opening cs)) closing = 0
      ∨ closing = byteLength cs
        ∧ ∀ i, opening ≤ i → 1 ≤ depthAt (codeOf opening (dropBytes opening cs)) i := by
  obtain hrest | ⟨hbalance, after, hrest⟩ := h.ends
  · refine .inr ⟨?_, fun i hi => h.one_le_depthAt hi (.inr hrest)⟩
    obtain ⟨before, hcs, rfl⟩ := h.text
    rw [hcs, hrest, List.append_nil, byteLength_append, byteLength_cons, ← h.stop, Nat.add_assoc]
    rfl
  · have hinside : depthAt (codeOf (opening + 1) body) closing = 0 := by
      rw [depthAt_eq_balance fun mark hmark => Nat.le_of_lt (h.lt_of_mem hmark).2, hbalance]
    have hbehind : depthAt (codeOf (closing + 1) after) closing = 0 :=
      depthAt_eq_zero fun mark hmark => le_of_mem_codeFrom hmark
    have hlt := h.stop
    rw [h.code_eq, hrest, codeOf_closing]
    refine .inl ⟨List.mem_cons_of_mem _ (List.mem_append_right _ List.mem_cons_self), ?_⟩
    rw [depthAt_cons _ (by dsimp only; omega), depthAt_append, depthAt_cons _ (Nat.le_refl closing),
      hinside, hbehind]
    rfl

theorem one_le_balance (h : IsBody cs opening closing body rest) {later : List (Nat × Char)}
    (heq : codeFrom isMark 0 (opening + 1) (cut (opening + 1) closing cs)
      = front ++ (i, '\x7d') :: later) : 1 ≤ balance front := by
  rw [h.cut_body, codeFrom_eq_codeOf, List.append_cons] at heq
  obtain ⟨before, after, hcode, hbefore, -⟩ := List.filter_eq_append_iff.mp heq
  have hnonneg := h.nonneg before ⟨after, hcode.symm⟩
  have hstep : braceStep '\x7d' = -1 := rfl
  rw [← balance_filter, hbefore, balance_append, balance_cons, balance_nil] at hnonneg
  dsimp only at hnonneg
  omega

theorem braceLines_eq (h : IsBody cs opening closing body rest) :
    braceLines cs opening closing
      = (opening + 1) :: ((codeOf opening (dropBytes opening cs)).filter fun mark =>
          mark.2 = '\n' ∧ opening < mark.1 ∧ mark.1 + 1 < closing
            ∧ depthAt (codeOf opening (dropBytes opening cs)) mark.1 = 1).map (·.1 + 1) := by
  have hnonneg : ∀ front, front <+: codeOf (opening + 1) body →
      0 ≤ ((0 : Nat) : Int) + balance front := by
    intro front hbegins
    have hbound := h.nonneg front hbegins
    omega
  have hbetween : ∀ mark : Nat × Char, decide (mark.2 = '\n' ∧ opening < mark.1
      ∧ mark.1 + 1 < closing ∧ depthAt (codeOf opening (dropBytes opening cs)) mark.1 = 1) = true →
        opening < mark.1 ∧ mark.1 < closing := by
    intro mark hmark
    obtain ⟨-, hopening, hclosing, -⟩ := of_decide_eq_true hmark
    exact ⟨hopening, by omega⟩
  rw [braceLines, h.cut_body, codeFrom_eq_codeOf,
    levelLines_filter closing (pairwise_codeOf _ _) hnonneg, h.filter_code hbetween]
  have hsame : ∀ mark ∈ codeOf (opening + 1) body,
      (mark.1 + 1 < closing ∧ ((0 : Nat) : Int) + depthAt (codeOf (opening + 1) body) mark.1 = 0
        ↔ opening < mark.1 ∧ mark.1 + 1 < closing
          ∧ depthAt (codeOf opening (dropBytes opening cs)) mark.1 = 1) := by
    intro mark hmark
    obtain ⟨hopening, hclosing⟩ := h.lt_of_mem hmark
    rw [h.depthAt_inside (Nat.le_of_lt hopening) hclosing]
    omega
  exact congrArg (fun marks : List (Nat × Char) => (opening + 1) :: marks.map (·.1 + 1))
    (List.filter_congr fun mark hmark => decide_eq_decide.mpr (and_congr_right' (hsame mark hmark)))

theorem isBraceBody (h : IsBody cs opening closing body rest)
    (hfirst : IsFirstBrace cs offset opening) : IsBraceBody cs offset opening closing where
  first := hfirst
  inside _ hopening hclosing := h.one_le_depthAt hopening (.inl hclosing)
  closed := h.closes
  scan keep := by
    rw [h.cut_body, codeFrom_eq_codeOf, h.filter_code fun mark hmark => (of_decide_eq_true hmark).2]
    refine List.filter_congr fun mark hmark => ?_
    have hbounds := h.lt_of_mem hmark
    simp [hbounds]
  unsaturated _ _ _ heq := h.one_le_balance heq
  lines := h.braceLines_eq
  increasing := by
    rw [h.braceLines_eq, List.pairwise_cons, List.pairwise_map]
    refine ⟨fun line hline => ?_, (pairwise_codeOf _ _).filter _ |>.imp Nat.succ_lt_succ⟩
    obtain ⟨mark, hmark, rfl⟩ := List.mem_map.mp hline
    have hopening := (of_decide_eq_true (List.mem_filter.mp hmark).2).2.1
    exact Nat.succ_lt_succ hopening

end IsBody

/-- The braces found are those of a body, and they are found if there is one. -/
theorem braceBody?_matches (cs : List Char) (offset : Nat) :
    match braceBody? cs offset with
    | some (opening, closing) => IsBraceBody cs offset opening closing
    | none => ∀ opening, ¬IsFirstBrace cs offset opening := by
  cases hbody : braceBody? cs offset with
  | some bounds =>
    obtain ⟨hfirst, body, rest, hsplit⟩ := braceBody?_eq_some hbody
    exact hsplit.isBraceBody hfirst
  | none =>
    intro opening hfirst
    obtain ⟨closing, hsome⟩ := exists_braceBody?_of_isFirstBrace hfirst
    cases hbody.symm.trans hsome

/-- A class with a closing brace in a literal and one in a comment. -/
def quotedBraces : List Char := "class A \x7b x = '\x7d'; // \x7d\n  m() \x7b\n \x7d\n\x7d\n".toList

theorem braceBody?_matches_quotedBraces :
    braceBody? quotedBraces 0 = some (8, 35) ∧ braceLines quotedBraces 8 35 = [9, 24]
      ∧ IsBraceBody quotedBraces 0 8 35 := by
  have hbody : braceBody? quotedBraces 0 = some (8, 35) := by decide
  have hmatches := braceBody?_matches quotedBraces 0
  rw [hbody] at hmatches
  exact ⟨hbody, by decide, hmatches⟩

end SourceRetrieval.Outline
