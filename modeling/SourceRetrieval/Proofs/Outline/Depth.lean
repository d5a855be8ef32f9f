/-
Depth in braces.

* `codeOf_append` — the scan of a text may be cut before a character that it gives;
* `closingBrace?_eq_some`, `closingBrace?_eq_none` — the brace that closes the first one,
  by the balance of the braces before it;
* `levelLines_filter` — the lines of a body, by the depth at the newlines before them.

Design notes: a depth is an integer here, so that a sum of braces may be split anywhere and
a closing brace too many would show as a negative depth.
-/
import Mathlib.Algebra.Ring.Int.Defs
import SourceRetrieval.Proofs.Outline.CodeScan

namespace SourceRetrieval.Outline

open Text

variable {code front : List (Nat × Char)} {mark : Nat × Char} {depth start closing i : Nat}

/-! ### Depth -/

/-- The characters of a text from offset `start` on that stand outside literals and comments. -/
def codeOf (start : Nat) (cs : List Char) : List (Nat × Char) :=
  codeFrom (fun _ => true) 0 start cs

theorem codeFrom_eq_codeOf (keep : Char → Bool) (start : Nat) (cs : List Char) :
    codeFrom keep 0 start cs = (codeOf start cs).filter fun mark => keep mark.2 :=
  codeFrom_eq_filter keep 0 start cs

theorem pairwise_codeOf (start : Nat) (cs : List Char) :
    (codeOf start cs).Pairwise fun a b => a.1 < b.1 := pairwise_codeFrom _ 0 start cs

@[simp] theorem codeOf_nil (start : Nat) : codeOf start [] = [] := rfl

theorem codeOf_opening (start : Nat) (rest : List Char) :
    codeOf start ('\x7b' :: rest) = (start, '\x7b') :: codeOf (start + 1) rest :=
  codeFrom_of_not_covered rfl

theorem codeOf_closing (start : Nat) (rest : List Char) :
    codeOf start ('\x7d' :: rest) = (start, '\x7d') :: codeOf (start + 1) rest :=
  codeFrom_of_not_covered rfl

theorem codeOf_append {before after : List Char} {c : Char}
    (h : (start + byteLength before, c) ∈ codeOf start (before ++ c :: after)) :
    codeOf start (before ++ c :: after)
      = codeOf start before ++ codeOf (start + byteLength before) (c :: after) :=
  codeFrom_append h

/-- What a character adds to the depth in braces. -/
def braceStep (c : Char) : Int :=
  if c = '\x7b' then 1 else if c = '\x7d' then -1 else 0

/-- The opening braces of a scan less the closing ones. -/
def balance (code : List (Nat × Char)) : Int := (code.map fun mark => braceStep mark.2).sum

/-- The depth in braces behind the characters of a scan up to an offset. -/
def depthAt (code : List (Nat × Char)) (offset : Nat) : Int :=
  balance (code.filter fun mark => mark.1 ≤ offset)

@[simp] theorem balance_nil : balance [] = 0 := rfl

@[simp] theorem balance_cons (mark : Nat × Char) (code : List (Nat × Char)) :
    balance (mark :: code) = braceStep mark.2 + balance code := List.sum_cons

@[simp] theorem balance_append (front code : List (Nat × Char)) :
    balance (front ++ code) = balance front + balance code := by
  rw [balance, List.map_append, List.sum_append, balance, balance]

theorem depthAt_cons (code : List (Nat × Char)) (h : mark.1 ≤ i) :
    depthAt (mark :: code) i = braceStep mark.2 + depthAt code i := by
  rw [depthAt, List.filter_cons_of_pos (by simpa using h), balance_cons, depthAt]

theorem depthAt_append (front code : List (Nat × Char)) (i : Nat) :
    depthAt (front ++ code) i = depthAt front i + depthAt code i := by
  rw [depthAt, List.filter_append, balance_append, depthAt, depthAt]

theorem depthAt_eq_balance (h : ∀ mark ∈ code, mark.1 ≤ i) : depthAt code i = balance code := by
  rw [depthAt, List.filter_eq_self.mpr fun mark hmark => decide_eq_true (h mark hmark)]

theorem depthAt_eq_zero (h : ∀ mark ∈ code, i < mark.1) : depthAt code i = 0 := by
  rw [depthAt, List.filter_eq_nil_iff.mpr fun mark hmark => ?_, balance_nil]
  have hlt := h mark hmark
  rw [decide_eq_true_iff]
  omega

/-- The characters up to an offset come first. -/
theorem isPrefix_filter_le (h : code.Pairwise fun a b => a.1 < b.1) (i : Nat) :
    code.filter (fun mark => mark.1 ≤ i) <+: code := by
  induction code with
  | nil => exact List.nil_prefix
  | cons mark code ih =>
    obtain ⟨hmark, hcode⟩ := List.pairwise_cons.mp h
    by_cases hle : mark.1 ≤ i
    · rw [List.filter_cons_of_pos (by simpa using hle), List.cons_prefix_cons]
      exact ⟨rfl, ih hcode⟩
    · rw [List.filter_eq_nil_iff.mpr fun other hother => ?_]
      · exact List.nil_prefix
      · rw [decide_eq_true_iff]
        rcases List.mem_cons.mp hother with rfl | hother
        · exact hle
        · have hlt := hmark other hother
          omega

theorem le_depthAt {bound : Int} (h : code.Pairwise fun a b => a.1 < b.1)
    (hbound : ∀ front, front <+: code → bound ≤ balance front) (i : Nat) :
    bound ≤ depthAt code i := hbound _ (isPrefix_filter_le h i)

/-! ### The brace that closes -/

theorem closingBrace?_filter (depth : Nat) (code : List (Nat × Char)) :
    closingBrace? depth (code.filter fun mark => isMark mark.2) = closingBrace? depth code := by
  induction code generalizing depth with
  | nil => rfl
  | cons mark code ih =>
    obtain ⟨offset, c⟩ := mark
    rw [List.filter_cons]
    split
    · rw [closingBrace?, closingBrace?, ih, ih, ih]
    next hmark =>
      simp only [isMark, Bool.or_eq_true, not_or] at hmark
      rw [closingBrace?, if_neg hmark.1.1, if_neg hmark.1.2]
      exact ih depth

theorem braceStep_eq_zero {c : Char} (hopen : c ≠ '\x7b') (hclose : c ≠ '\x7d') :
    braceStep c = 0 := by
  rw [braceStep, if_neg hopen, if_neg hclose]

theorem balance_filter (code : List (Nat × Char)) :
    balance (code.filter fun mark => isMark mark.2) = balance code := by
  induction code with
  | nil => rfl
  | cons mark code ih =>
    rw [List.filter_cons]
    split
    · rw [balance_cons, balance_cons, ih]
    next hmark =>
      simp only [isMark, Bool.or_eq_true, not_or, beq_iff_eq] at hmark
      rw [balance_cons, braceStep_eq_zero hmark.1.1 hmark.1.2, ih, Int.zero_add]

/-- One character closes the first brace or leads to the depth behind it. -/
theorem closingBrace?_cons (hdepth : 1 ≤ depth) (mark : Nat × Char) (code : List (Nat × Char)) :
    depth = 1 ∧ mark.2 = '\x7d' ∧ closingBrace? depth (mark :: code) = some mark.1
      ∨ ∃ next : Nat, 1 ≤ next ∧ (next : Int) = depth + braceStep mark.2
          ∧ closingBrace? depth (mark :: code) = closingBrace? next code := by
  obtain ⟨offset, c⟩ := mark
  by_cases hopen : c = '\x7b'
  · subst hopen
    exact .inr ⟨depth + 1, by omega, Int.natCast_succ depth, rfl⟩
  · by_cases hclose : c = '\x7d'
    · subst hclose
      have hstep : braceStep '\x7d' = -1 := rfl
      rw [closingBrace?, if_neg (by decide), if_pos (by decide)]
      by_cases hlast : depth ≤ 1
      · exact .inl ⟨by omega, rfl, if_pos hlast⟩
      · exact .inr ⟨depth - 1, by omega, by simp only [hstep]; omega, if_neg hlast⟩
    · have hstep := braceStep_eq_zero hopen hclose
      rw [closingBrace?, if_neg (by simpa using hopen), if_neg (by simpa using hclose)]
      exact .inr ⟨depth, hdepth, by simp only [hstep]; omega, rfl⟩

/-- The braces before the one that closes the first balance, and none of them closes it. -/
theorem closingBrace?_eq_some (hdepth : 1 ≤ depth) (h : closingBrace? depth code = some closing) :
    ∃ inner later, code = inner ++ (closing, '\x7d') :: later ∧ depth + balance inner = 1
      ∧ ∀ front, front <+: inner → 1 ≤ depth + balance front := by
  induction code generalizing depth with
  | nil => cases h
  | cons mark code ih =>
    obtain ⟨rfl, hclose, heq⟩ | ⟨next, hnext, hstep, heq⟩ := closingBrace?_cons hdepth mark code
    · obtain rfl := Option.some_inj.mp (heq.symm.trans h)
      refine ⟨[], code, by rw [← hclose]; rfl, rfl, fun front hbegins => ?_⟩
      rw [List.prefix_nil.mp hbegins]
      exact Int.le_refl 1
    · obtain ⟨inner, later, rfl, hinner, hfront⟩ := ih hnext (heq.symm.trans h)
      refine ⟨mark :: inner, later, rfl, ?_, fun front hbegins => ?_⟩
      · rw [balance_cons]
        omega
      · rcases List.prefix_cons_iff.mp hbegins with rfl | ⟨front, rfl, hinside⟩
        · rw [balance_nil]
          omega
        · have hbound := hfront front hinside
          rw [balance_cons]
          omega

/-- If the first brace is never closed, every depth behind it is positive. -/
theorem closingBrace?_eq_none (hdepth : 1 ≤ depth) (h : closingBrace? depth code = none)
    (hbegins : front <+: code) : 1 ≤ depth + balance front := by
  induction code generalizing depth front with
  | nil =>
    rw [List.prefix_nil.mp hbegins, balance_nil]
    omega
  | cons mark code ih =>
    rcases List.prefix_cons_iff.mp hbegins with rfl | ⟨front, rfl, hlater⟩
    · rw [balance_nil]
      omega
    · obtain ⟨-, -, heq⟩ | ⟨next, hnext, hstep, heq⟩ := closingBrace?_cons hdepth mark code
      · cases heq.symm.trans h
      · have hbound := ih hnext (heq.symm.trans h) hlater
        rw [balance_cons]
        omega

/-! ### Lines -/

/-- One character of a scan changes the depth or ends a line. -/
theorem levelLines_filter (stop : Nat) (hpair : code.Pairwise fun a b => a.1 < b.1)
    (hdepth : ∀ front, front <+: code → 0 ≤ depth + balance front) :
    levelLines stop depth (code.filter fun mark => isMark mark.2)
      = (code.filter fun mark =>
          mark.2 = '\n' ∧ mark.1 + 1 < stop ∧ depth + depthAt code mark.1 = 0).map (·.1 + 1) := by
  induction code generalizing depth with
  | nil => rfl
  | cons mark code ih =>
    obtain ⟨hmark, hcode⟩ := List.pairwise_cons.mp hpair
    obtain ⟨offset, c⟩ := mark
    have hfirst : depthAt ((offset, c) :: code) offset = braceStep c := by
      rw [depthAt_cons code (Nat.le_refl offset), depthAt_eq_zero hmark]
      exact Int.add_zero _
    -- Behind the character the depths are those of the rest, from the depth it leads to.
    have hlater : ∀ next : Nat, (next : Int) = depth + braceStep c →
        levelLines stop next (code.filter fun mark => isMark mark.2)
          = (code.filter fun mark => mark.2 = '\n' ∧ mark.1 + 1 < stop
              ∧ depth + depthAt ((offset, c) :: code) mark.1 = 0).map (·.1 + 1) := by
      intro next hnext
      rw [ih hcode fun front hbegins => ?_]
      · refine congrArg _ (List.filter_congr fun mark hmem => ?_)
        have hle : (offset, c).1 ≤ mark.1 := Nat.le_of_lt (hmark mark hmem)
        rw [depthAt_cons code hle, hnext, Int.add_assoc]
      · have hbound := hdepth ((offset, c) :: front) (List.cons_prefix_cons.mpr ⟨rfl, hbegins⟩)
        rw [balance_cons] at hbound
        dsimp only at hbound
        omega
    by_cases hopen : c = '\x7b'
    · subst hopen
      rw [List.filter_cons_of_pos rfl, List.filter_cons_of_neg (by simp)]
      exact hlater (depth + 1) (Int.natCast_succ depth)
    · by_cases hclose : c = '\x7d'
      · subst hclose
        -- The depth behind a closing brace is not negative, so the one before is positive.
        have hbound := hdepth [(offset, '\x7d')] (List.cons_prefix_cons.mpr ⟨rfl, List.nil_prefix⟩)
        have hstep : braceStep '\x7d' = -1 := rfl
        rw [balance_cons, balance_nil, hstep] at hbound
        rw [List.filter_cons_of_pos rfl, List.filter_cons_of_neg (by simp)]
        exact hlater (depth - 1) (by omega)
      · have hstep := braceStep_eq_zero hopen hclose
        have hsame := hlater depth (by omega)
        by_cases hnewline : c = '\n'
        · subst hnewline
          rw [List.filter_cons_of_pos rfl, List.filter_cons, levelLines, if_neg (by decide),
            if_neg (by decide), hsame]
          by_cases hline : offset + 1 < stop ∧ depth = 0
          · rw [if_pos (by simp [hline]), if_pos (by simp [hline, hfirst, hstep])]
            rfl
          · rw [if_neg (by simp; omega), if_neg (by simp [hfirst, hstep]; omega)]
        · rw [List.filter_cons_of_neg (by simp [isMark, hopen, hclose, hnewline]),
            List.filter_cons_of_neg (by simp [hnewline])]
          exact hsame

end SourceRetrieval.Outline
