/-
The characters of a text outside string literals and comments.

* `codeFrom_eq_filter` — to keep some of them is to leave out others;
* `exists_of_mem_codeFrom`, `pairwise_codeFrom` — each stands in the text at its offset,
  and the offsets increase;
* `codeFrom_append` — a text may be cut before a character that the scan gives, and
  either part scanned on its own.

Design notes: a scan looks ahead for the end of a literal or comment, so a part of a text
need not be scanned as the whole is.  But no literal or comment covers a character that
the scan gives, so those that begin before it also end before it, and a scan that stops
there finds the same ends (`coveredLength?_of_append`).
-/
import SourceRetrieval.Outline.Body
import SourceRetrieval.Proofs.Text.Offset

namespace SourceRetrieval.Outline

open Text

variable {keep : Char → Bool} {skip start covered count : Nat} {c quote : Char}
  {cs before after : List Char} {mark : Nat × Char}

/-! ### One character -/

theorem codeFrom_succ (keep : Char → Bool) (skip start : Nat) (c : Char) (cs : List Char) :
    codeFrom keep (skip + 1) start (c :: cs) = codeFrom keep skip (start + c.utf8Size) cs := rfl

theorem codeFrom_of_covered (h : coveredLength? c cs = some covered) :
    codeFrom keep 0 start (c :: cs) = codeFrom keep covered (start + c.utf8Size) cs := by
  rw [codeFrom]
  simp only [h]

theorem codeFrom_of_not_covered (h : coveredLength? c cs = none) :
    codeFrom keep 0 start (c :: cs) =
      if keep c then (start, c) :: codeFrom keep 0 (start + c.utf8Size) cs
      else codeFrom keep 0 (start + c.utf8Size) cs := by
  rw [codeFrom]
  simp only [h]

/-- To keep some of the characters is to leave out the others. -/
theorem codeFrom_eq_filter (keep : Char → Bool) (skip start : Nat) (cs : List Char) :
    codeFrom keep skip start cs
      = (codeFrom (fun _ => true) skip start cs).filter fun mark => keep mark.2 := by
  induction cs generalizing skip start with
  | nil => rfl
  | cons c cs ih =>
    cases skip with
    | succ rest => exact ih rest _
    | zero =>
      cases hcovered : coveredLength? c cs with
      | some covered =>
        rw [codeFrom_of_covered hcovered, codeFrom_of_covered hcovered]
        exact ih covered _
      | none =>
        rw [codeFrom_of_not_covered hcovered, codeFrom_of_not_covered hcovered, if_pos rfl,
          List.filter_cons, ih]

/-! ### Offsets -/

/-- A character that a scan gives stands at its offset, behind those to be skipped. -/
theorem exists_of_mem_codeFrom (h : mark ∈ codeFrom keep skip start cs) :
    ∃ before after, cs = before ++ mark.2 :: after ∧ mark.1 = start + byteLength before
      ∧ skip ≤ before.length := by
  induction cs generalizing skip start with
  | nil => cases h
  | cons c cs ih =>
    have hlater : ∀ covered, skip ≤ covered + 1 →
        mark ∈ codeFrom keep covered (start + c.utf8Size) cs →
        ∃ before after, c :: cs = before ++ mark.2 :: after
          ∧ mark.1 = start + byteLength before ∧ skip ≤ before.length := by
      intro covered hskip hmem
      obtain ⟨before, after, rfl, hmark, hcovered⟩ := ih hmem
      refine ⟨c :: before, after, rfl, ?_, ?_⟩
      · rw [hmark, byteLength_cons, Nat.add_assoc]
      · rw [List.length_cons]
        omega
    cases skip with
    | succ rest => exact hlater rest (Nat.le_refl _) h
    | zero =>
      cases hcovered : coveredLength? c cs with
      | some covered =>
        rw [codeFrom_of_covered hcovered] at h
        exact hlater covered (Nat.zero_le _) h
      | none =>
        rw [codeFrom_of_not_covered hcovered] at h
        split at h
        · rcases List.mem_cons.mp h with rfl | h
          · exact ⟨[], cs, rfl, rfl, Nat.le_refl 0⟩
          · exact hlater 0 (Nat.zero_le _) h
        · exact hlater 0 (Nat.zero_le _) h

theorem le_of_mem_codeFrom (h : mark ∈ codeFrom keep skip start cs) : start ≤ mark.1 := by
  obtain ⟨before, -, -, hmark, -⟩ := exists_of_mem_codeFrom h
  omega

theorem lt_of_mem_codeFrom (h : mark ∈ codeFrom keep skip start cs) :
    mark.1 < start + byteLength cs := by
  obtain ⟨before, after, rfl, hmark, -⟩ := exists_of_mem_codeFrom h
  have hsize := mark.2.utf8Size_pos
  rw [byteLength_append, byteLength_cons]
  omega

theorem pairwise_codeFrom (keep : Char → Bool) (skip start : Nat) (cs : List Char) :
    (codeFrom keep skip start cs).Pairwise fun a b => a.1 < b.1 := by
  induction cs generalizing skip start with
  | nil => exact .nil
  | cons c cs ih =>
    cases skip with
    | succ rest => exact ih rest _
    | zero =>
      cases hcovered : coveredLength? c cs with
      | some covered =>
        rw [codeFrom_of_covered hcovered]
        exact ih covered _
      | none =>
        rw [codeFrom_of_not_covered hcovered]
        split
        · refine List.pairwise_cons.mpr ⟨fun mark hmark => ?_, ih 0 _⟩
          have hle := le_of_mem_codeFrom hmark
          have hsize := c.utf8Size_pos
          omega
        · exact ih 0 _

/-! ### Literals and comments in a part of a text -/

theorem ne_backslash (hlast : c = '\\' → cs = [] → False)
    (hescape : ∀ d rest, c = '\\' → cs = d :: rest → False) : c ≠ '\\' := by
  intro hc
  cases cs with
  | nil => exact hlast hc rfl
  | cons d rest => exact hescape d rest hc rfl

theorem quotedLength?_cons (hc : c ≠ '\\') :
    quotedLength? quote count (c :: cs) =
      if c == quote then some (count + 1)
      else if c == '\n' && quote != '`' then none
      else quotedLength? quote (count + 1) cs := by
  rw [quotedLength?]
  · exact fun h _ => hc h
  · exact fun _ _ h _ => hc h

theorem lt_of_quotedLength? (h : quotedLength? quote count cs = some covered) :
    count < covered := by
  fun_induction quotedLength? quote count cs with
  | case1 | case2 | case5 => cases h
  | case3 count d cs ih =>
    have hlt := ih h
    omega
  | case4 count c cs =>
    rw [← Option.some_inj.mp h]
    exact Nat.lt_succ_self _
  | case6 count c cs hlast hescape hquote hnewline ih =>
    have hlt := ih h
    omega

/-- A beginning of a text holds the end of a literal, or it comes later if at all. -/
theorem quotedLength?_append (quote : Char) (count : Nat) (before after : List Char) :
    quotedLength? quote count (before ++ after) = quotedLength? quote count before
      ∨ quotedLength? quote count before = none ∧ ∀ covered,
        quotedLength? quote count (before ++ after) = some covered →
          count + before.length < covered := by
  fun_induction quotedLength? quote count before with
  | case1 count => exact .inr ⟨rfl, fun covered h => lt_of_quotedLength? h⟩
  | case2 count =>
    -- The character that is escaped stands behind the cut.
    refine .inr ⟨rfl, fun covered h => ?_⟩
    cases after with
    | nil => cases h
    | cons d rest =>
      have hlt : count + 2 < covered := lt_of_quotedLength? h
      rw [List.length_singleton]
      omega
  | case3 count d cs ih =>
    rw [List.cons_append, List.cons_append, quotedLength?, List.length_cons, List.length_cons]
    refine ih.imp_right fun ⟨hnone, hlater⟩ => ⟨hnone, fun covered h => ?_⟩
    have hlt := hlater covered h
    omega
  | case4 count c cs hlast hescape hquote =>
    rw [List.cons_append, quotedLength?_cons (ne_backslash hlast hescape), if_pos hquote]
    exact .inl rfl
  | case5 count c cs hlast hescape hquote hnewline =>
    rw [List.cons_append, quotedLength?_cons (ne_backslash hlast hescape), if_neg hquote,
      if_pos hnewline]
    exact .inl rfl
  | case6 count c cs hlast hescape hquote hnewline ih =>
    rw [List.cons_append, quotedLength?_cons (ne_backslash hlast hescape), if_neg hquote,
      if_neg hnewline, List.length_cons]
    refine ih.imp_right fun ⟨hnone, hlater⟩ => ⟨hnone, fun covered h => ?_⟩
    have hlt := hlater covered h
    omega

theorem le_blockCommentLength (count : Nat) (cs : List Char) :
    count ≤ blockCommentLength count cs := by
  fun_induction blockCommentLength count cs <;> omega

theorem lt_blockCommentLength (h : cs ≠ []) : count < blockCommentLength count cs := by
  fun_cases blockCommentLength count cs with
  | case1 => exact absurd rfl h
  | case2 => omega
  | case3 c cs hend => exact le_blockCommentLength (count + 1) cs

/-- A beginning of a text holds the end of a comment, or it comes later. -/
theorem blockCommentLength_append (count : Nat) (before : List Char) (hafter : after ≠ []) :
    blockCommentLength count (before ++ after) = blockCommentLength count before
      ∨ count + before.length < blockCommentLength count (before ++ after) := by
  fun_induction blockCommentLength count before with
  | case1 count => exact .inr (lt_blockCommentLength hafter)
  | case2 count cs => exact .inl rfl
  | case3 count c cs hend ih =>
    rw [List.cons_append, blockCommentLength.eq_def, List.length_cons]
    split
    next heq => exact absurd heq (List.cons_ne_nil _ _)
    next rest heq =>
      -- The slash of the end stands behind the cut, or else the beginning held the end.
      obtain ⟨hc, hrest⟩ := List.cons_eq_cons.mp heq
      cases cs with
      | nil => exact .inr (Nat.lt_succ_self _)
      | cons d others => exact absurd (hend others hc (by simp_all)) id
    next d rest hnone heq =>
      obtain ⟨-, rfl⟩ := List.cons_eq_cons.mp heq
      refine ih.imp_right fun hlater => ?_
      omega

theorem coveredLength?_of_quote (h : (c == '"' || c == '\'' || c == '`') = true) (cs : List Char) :
    coveredLength? c cs = quotedLength? c 0 cs := if_pos h

theorem coveredLength?_line (cs : List Char) :
    coveredLength? '/' ('/' :: cs) = some (('/' :: cs).takeWhile (· != '\n')).length := rfl

theorem coveredLength?_block (cs : List Char) :
    coveredLength? '/' ('*' :: cs) = some (blockCommentLength 1 cs) := rfl

/-- A character that is neither a quote nor the first of a comment covers nothing. -/
theorem coveredLength?_eq_none (hquote : ¬(c == '"' || c == '\'' || c == '`') = true)
    (hcomment : c = '/' → cs.head? ≠ some '/' ∧ cs.head? ≠ some '*') :
    coveredLength? c cs = none := by
  rw [coveredLength?.eq_def, if_neg hquote]
  split
  next hslash =>
    obtain ⟨hline, hblock⟩ := hcomment (by simpa using hslash)
    split
    · exact absurd rfl hline
    · exact absurd rfl hblock
    · rfl
  next => rfl

theorem length_takeWhile_append {p : Char → Bool}
    (h : ((before ++ after).takeWhile p).length ≤ before.length) :
    ((before ++ after).takeWhile p).length = (before.takeWhile p).length := by
  rw [List.takeWhile_append] at h ⊢
  split
  next hall =>
    rw [if_pos hall, List.length_append] at h
    rw [List.length_append]
    omega
  next => rfl

theorem pos_of_coveredLength? (h : coveredLength? c cs = some covered) : 0 < covered := by
  by_cases hquote : (c == '"' || c == '\'' || c == '`') = true
  · rw [coveredLength?_of_quote hquote] at h
    exact lt_of_quotedLength? h
  · by_cases hline : c = '/' ∧ cs.head? = some '/'
    · obtain ⟨rfl, hhead⟩ := hline
      obtain ⟨rest, rfl⟩ := List.head?_eq_some_iff.mp hhead
      rw [coveredLength?_line] at h
      rw [← Option.some_inj.mp h]
      exact Nat.succ_pos _
    · by_cases hblock : c = '/' ∧ cs.head? = some '*'
      · obtain ⟨rfl, hhead⟩ := hblock
        obtain ⟨inner, rfl⟩ := List.head?_eq_some_iff.mp hhead
        rw [coveredLength?_block] at h
        rw [← Option.some_inj.mp h]
        exact Nat.lt_of_lt_of_le Nat.one_pos (le_blockCommentLength 1 inner)
      · rw [coveredLength?_eq_none hquote fun hc =>
          ⟨fun hhead => hline ⟨hc, hhead⟩, fun hhead => hblock ⟨hc, hhead⟩⟩] at h
        cases h

/-- A literal or comment that ends in a beginning of a text is found there as in the whole. -/
theorem coveredLength?_of_append (hafter : after ≠ [])
    (h : ∀ covered, coveredLength? c (before ++ after) = some covered →
      covered ≤ before.length) :
    coveredLength? c before = coveredLength? c (before ++ after) := by
  by_cases hquote : (c == '"' || c == '\'' || c == '`') = true
  · rw [coveredLength?_of_quote hquote] at h ⊢
    rw [coveredLength?_of_quote hquote]
    obtain heq | ⟨hnone, hlater⟩ := quotedLength?_append c 0 before after
    · exact heq.symm
    · rw [hnone]
      refine (Option.eq_none_iff_forall_ne_some.mpr fun covered hcovered => ?_).symm
      have hlt := hlater covered hcovered
      have hle := h covered hcovered
      omega
  · cases before with
    | nil =>
      -- No comment ends before its second character.
      rw [coveredLength?_eq_none hquote fun _ => ⟨by nofun, by nofun⟩]
      refine (Option.eq_none_iff_forall_ne_some.mpr fun covered hcovered => ?_).symm
      exact absurd (h covered hcovered) (Nat.not_le.mpr (pos_of_coveredLength? hcovered))
    | cons d rest =>
      rw [List.cons_append] at h ⊢
      by_cases hline : c = '/' ∧ d = '/'
      · obtain ⟨rfl, rfl⟩ := hline
        rw [coveredLength?_line] at h
        rw [coveredLength?_line, coveredLength?_line]
        exact congrArg some (length_takeWhile_append (h _ rfl)).symm
      · by_cases hblock : c = '/' ∧ d = '*'
        · obtain ⟨rfl, rfl⟩ := hblock
          rw [coveredLength?_block] at h
          rw [coveredLength?_block, coveredLength?_block]
          have hle := h _ rfl
          obtain heq | hlater := blockCommentLength_append 1 rest hafter
          · rw [heq]
          · rw [List.length_cons] at hle
            omega
        · have hnone : ∀ cs, coveredLength? c (d :: cs) = none := by
            refine fun cs => coveredLength?_eq_none hquote fun hc => ?_
            rw [List.head?_cons, Ne, Ne, Option.some_inj, Option.some_inj]
            exact ⟨fun hd => hline ⟨hc, hd⟩, fun hd => hblock ⟨hc, hd⟩⟩
          rw [hnone, hnone]

/-- What a literal or comment covers ends before a character that the scan gives. -/
theorem coveredLength?_of_mem_codeFrom {d : Char}
    (h : (start + d.utf8Size + byteLength before, c)
      ∈ codeFrom keep 0 start (d :: (before ++ c :: after))) :
    coveredLength? d before = coveredLength? d (before ++ c :: after) := by
  refine coveredLength?_of_append (List.cons_ne_nil _ _) fun covered hcovered => ?_
  rw [codeFrom_of_covered hcovered] at h
  obtain ⟨front, back, heq, hoffset, hle⟩ := exists_of_mem_codeFrom h
  have hlength : byteLength front = byteLength before := by
    simp only [] at hoffset
    omega
  have hfront : front = before := by
    rw [← takeBytes_append front (c :: back), ← heq, hlength, takeBytes_append]
  rwa [hfront] at hle

/-- A text may be cut before a character that the scan gives. -/
theorem codeFrom_append
    (h : (start + byteLength before, c) ∈ codeFrom keep skip start (before ++ c :: after)) :
    codeFrom keep skip start (before ++ c :: after)
      = codeFrom keep skip start before
        ++ codeFrom keep 0 (start + byteLength before) (c :: after) := by
  induction before generalizing skip start with
  | nil =>
    cases skip with
    | zero => rfl
    | succ rest =>
      -- A character that is skipped is not given.
      rw [List.nil_append, codeFrom_succ] at h
      have hle := le_of_mem_codeFrom h
      have hsize := c.utf8Size_pos
      simp only [byteLength_nil] at hle
      omega
  | cons d before ih =>
    have hoffset : start + byteLength (d :: before)
        = start + d.utf8Size + byteLength before := by
      rw [byteLength_cons, Nat.add_assoc]
    rw [hoffset] at h ⊢
    rw [List.cons_append] at h ⊢
    cases skip with
    | succ rest => exact ih h
    | zero =>
      have hcovered := coveredLength?_of_mem_codeFrom h
      cases hwhole : coveredLength? d (before ++ c :: after) with
      | some covered =>
        rw [codeFrom_of_covered hwhole] at h ⊢
        rw [codeFrom_of_covered (hcovered.trans hwhole)]
        exact ih h
      | none =>
        rw [codeFrom_of_not_covered hwhole] at h ⊢
        rw [codeFrom_of_not_covered (hcovered.trans hwhole)]
        have hlater : (start + d.utf8Size + byteLength before, c)
            ∈ codeFrom keep 0 (start + d.utf8Size) (before ++ c :: after) := by
          split at h
          · refine (List.mem_cons.mp h).resolve_left fun heq => ?_
            have hsize := d.utf8Size_pos
            have hsame := congrArg Prod.fst heq
            simp only [] at hsame
            omega
          · exact h
        split
        · rw [ih hlater, List.cons_append]
        · exact ih hlater

end SourceRetrieval.Outline
