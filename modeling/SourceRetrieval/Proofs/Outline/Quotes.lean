/-
The strings in quotes of a text.

* `Quoted` says which strings stand in quotes: a quote that is closed holds a string, and
  one that is never closed hides what follows it;
* `quotedStrings_eq_iff` — the scan lists those and no others;
* `specifiers_quotedList` — so behind an unclosed quote nothing is listed, whatever stands
  there in quotes of the other kind.

Design notes: the scan counts the characters that the last string takes up, so a string is
passed over by dropping its characters (`quotedFrom_eq_drop`).
-/
import Mathlib.Data.List.TakeWhile
import SourceRetrieval.Outline.Extract

namespace SourceRetrieval.Outline

/-- A character that opens a string. -/
def IsQuote (c : Char) : Prop := c = '"' ∨ c = '\''

/-- The non-empty strings that stand in quotes in a text, from left to right. -/
inductive Quoted : List Char → List String → Prop where
  /-- A text without quotes. -/
  | plain {text : List Char} (h : ∀ c ∈ text, ¬IsQuote c) : Quoted text []
  /-- The first quote is never closed. -/
  | unclosed {before after : List Char} {quote : Char} (hbefore : ∀ c ∈ before, ¬IsQuote c)
      (hquote : IsQuote quote) (hafter : quote ∉ after) : Quoted (before ++ quote :: after) []
  /-- The first quote is closed at the end of `inside`. -/
  | closed {before inside after : List Char} {quote : Char} {found : List String}
      (hbefore : ∀ c ∈ before, ¬IsQuote c) (hquote : IsQuote quote) (hinside : quote ∉ inside)
      (rest : Quoted after found) :
      Quoted (before ++ quote :: (inside ++ quote :: after))
        (if inside = [] then found else String.ofList inside :: found)

variable {before inside after text : List Char} {quote : Char} {found : List String}

/-! ### The scan -/

theorem quotedFrom_eq_drop (skip : Nat) (cs : List Char) :
    quotedFrom skip cs = quotedFrom 0 (cs.drop skip) := by
  induction cs generalizing skip with
  | nil => rw [List.drop_nil, quotedFrom, quotedFrom]
  | cons c cs ih =>
    cases skip with
    | zero => rfl
    | succ rest => rw [quotedFrom, ih, List.drop_succ_cons]

theorem not_isQuote_iff {c : Char} : ¬IsQuote c ↔ (c == '"' || c == '\'') = false := by
  simp [IsQuote]

theorem isQuote_iff {c : Char} : IsQuote c ↔ (c == '"' || c == '\'') = true := by
  simp [IsQuote]

theorem not_isQuote_of_any (h : text.any (fun c => c == '"' || c == '\'') = false) :
    ∀ c ∈ text, ¬IsQuote c :=
  fun c hc hquote => List.any_eq_false.mp h c hc (isQuote_iff.mp hquote)

theorem quotedStrings_append (h : ∀ c ∈ before, ¬IsQuote c) (cs : List Char) :
    quotedStrings (before ++ cs) = quotedStrings cs := by
  induction before with
  | nil => rfl
  | cons c before ih =>
    obtain ⟨hc, hbefore⟩ := List.forall_mem_cons.mp h
    rw [List.cons_append, quotedStrings, quotedFrom, not_isQuote_iff.mp hc, if_neg Bool.false_ne_true]
    exact ih hbefore

theorem bne_of_not_mem (h : quote ∉ inside) : ∀ c ∈ inside, (c != quote) = true := by
  intro c hc
  rw [bne_iff_ne]
  rintro rfl
  exact h hc

theorem takeWhile_append_cons (h : quote ∉ inside) (after : List Char) :
    (inside ++ quote :: after).takeWhile (· != quote) = inside := by
  rw [List.takeWhile_append_of_pos (bne_of_not_mem h), List.takeWhile_cons_of_neg (by simp),
    List.append_nil]

theorem quotedStrings_unclosed (hquote : IsQuote quote) (h : quote ∉ after) :
    quotedStrings (quote :: after) = [] := by
  rw [quotedStrings, quotedFrom, if_pos (isQuote_iff.mp hquote),
    List.takeWhile_eq_self_iff.mpr (bne_of_not_mem h), if_neg (Nat.lt_irrefl _)]

theorem quotedStrings_closed (hquote : IsQuote quote) (h : quote ∉ inside) (after : List Char) :
    quotedStrings (quote :: (inside ++ quote :: after))
      = if inside = [] then quotedStrings after
        else String.ofList inside :: quotedStrings after := by
  have hlength : inside.length < (inside ++ quote :: after).length := by simp
  have hdrop : (inside ++ quote :: after).drop (inside.length + 1) = after := by simp
  rw [quotedStrings, quotedFrom, if_pos (isQuote_iff.mp hquote), takeWhile_append_cons h,
    if_pos hlength, quotedFrom_eq_drop (inside.length + 1), hdrop]
  cases inside with
  | nil => exact quotedFrom_eq_drop 1 (quote :: after)
  | cons c inside => rfl

/-! ### What is listed -/

theorem Quoted.quotedStrings_eq (h : Quoted text found) : quotedStrings text = found := by
  induction h with
  | @plain text h =>
    rw [← List.append_nil text, quotedStrings_append h]
    rfl
  | unclosed hbefore hquote hafter =>
    rw [quotedStrings_append hbefore, quotedStrings_unclosed hquote hafter]
  | closed hbefore hquote hinside _ ih =>
    rw [quotedStrings_append hbefore, quotedStrings_closed hquote hinside, ih]

/-- A text has no quotes, or it has a first one. -/
theorem exists_quote_or (text : List Char) :
    (∀ c ∈ text, ¬IsQuote c) ∨ ∃ before quote after,
      text = before ++ quote :: after ∧ (∀ c ∈ before, ¬IsQuote c) ∧ IsQuote quote := by
  induction text with
  | nil => exact .inl nofun
  | cons c text ih =>
    by_cases hc : IsQuote c
    · exact .inr ⟨[], c, text, rfl, nofun, hc⟩
    · rcases ih with ih | ⟨before, quote, after, rfl, hbefore, hquote⟩
      · exact .inl (List.forall_mem_cons.mpr ⟨hc, ih⟩)
      · exact .inr ⟨c :: before, quote, after, rfl, List.forall_mem_cons.mpr ⟨hc, hbefore⟩, hquote⟩

theorem quoted_quotedStrings (text : List Char) : Quoted text (quotedStrings text) := by
  induction hn : text.length using Nat.strongRecOn generalizing text with
  | ind n ih =>
    rcases exists_quote_or text with hplain | ⟨before, quote, after, rfl, hbefore, hquote⟩
    · have hquoted := Quoted.plain hplain
      rwa [← hquoted.quotedStrings_eq] at hquoted
    · by_cases hclosed : quote ∈ after
      · obtain ⟨inside, later, rfl, hinside⟩ := List.eq_append_cons_of_mem hclosed
        have hshorter : later.length < n := by
          rw [← hn]
          simp only [List.length_append, List.length_cons]
          omega
        have hquoted := Quoted.closed hbefore hquote hinside (ih later.length hshorter later rfl)
        rwa [← hquoted.quotedStrings_eq] at hquoted
      · have hquoted := Quoted.unclosed hbefore hquote hclosed
        rwa [← hquoted.quotedStrings_eq] at hquoted

/-- The scan lists the strings that stand in quotes. -/
theorem quotedStrings_eq_iff : quotedStrings text = found ↔ Quoted text found := by
  refine ⟨?_, Quoted.quotedStrings_eq⟩
  rintro rfl
  exact quoted_quotedStrings text

/-- The specifiers of a list in quotes are the strings that stand in quotes, where a quote that is
never closed hides all that follows it.  So a text whose only quote of a kind has no other quotes
before it lists nothing, and it lists what follows the quote just if nothing stands in quotes
there. -/
theorem specifiers_quotedList (text : List Char) :
    (∀ found, specifiers .quotedList text = found ↔ Quoted text found)
      ∧ ∀ before quote after, text = before ++ quote :: after → (∀ c ∈ before, ¬IsQuote c) →
        IsQuote quote → quote ∉ after →
        specifiers .quotedList text = []
          ∧ (specifiers .quotedList text = specifiers .quotedList after ↔ Quoted after []) := by
  refine ⟨fun found => quotedStrings_eq_iff, ?_⟩
  rintro before quote after rfl hbefore hquote hafter
  have hnothing : specifiers .quotedList (before ++ quote :: after) = [] :=
    quotedStrings_eq_iff.mpr (.unclosed hbefore hquote hafter)
  refine ⟨hnothing, ?_⟩
  rw [hnothing, eq_comm]
  exact quotedStrings_eq_iff

/-- The imports behind a comment with an apostrophe. -/
def apostropheImports : List Char := "\n// don't\n\"fmt\"\n".toList

/-- The apostrophe of a comment is the only one, and the path behind it is not listed. -/
theorem specifiers_quotedList_apostrophe :
    apostropheImports = "\n// don".toList ++ '\'' :: "t\n\"fmt\"\n".toList
      ∧ (∀ c ∈ "\n// don".toList, ¬IsQuote c) ∧ IsQuote '\'' ∧ '\'' ∉ "t\n\"fmt\"\n".toList
      ∧ specifiers .quotedList apostropheImports = []
      ∧ ¬Quoted "t\n\"fmt\"\n".toList [] := by
  have htext : apostropheImports = "\n// don".toList ++ '\'' :: "t\n\"fmt\"\n".toList := by
    decide
  have hbefore : ∀ c ∈ "\n// don".toList, ¬IsQuote c := not_isQuote_of_any (by decide)
  have hquote : IsQuote '\'' := .inr rfl
  have hafter : '\'' ∉ "t\n\"fmt\"\n".toList := by decide
  have hlisted : specifiers .quotedList "t\n\"fmt\"\n".toList ≠ [] := by decide
  obtain ⟨hnothing, hsame⟩ :=
    (specifiers_quotedList apostropheImports).2 _ '\'' _ htext hbefore hquote hafter
  exact ⟨htext, hbefore, hquote, hafter, hnothing, fun hnone =>
    hlisted ((hsame.mpr hnone).symm.trans hnothing)⟩

/-- What follows an unclosed quote is not always listed as if the quote were no quote. -/
theorem not_forall_specifiers_after :
    ¬∀ (before : List Char) (quote : Char) (after : List Char), (∀ c ∈ before, ¬IsQuote c) →
      IsQuote quote → quote ∉ after →
      specifiers .quotedList (before ++ quote :: after) = specifiers .quotedList after := by
  intro h
  have hsame := h "\n// don".toList '\'' "t\n\"fmt\"\n".toList
    (not_isQuote_of_any (by decide)) (.inr rfl) (by decide)
  have hnothing : specifiers .quotedList
      ("\n// don".toList ++ '\'' :: "t\n\"fmt\"\n".toList) = [] := by
    decide
  have hlisted : specifiers .quotedList "t\n\"fmt\"\n".toList ≠ [] := by decide
  exact hlisted (hsame.symm.trans hnothing)

end SourceRetrieval.Outline
