/-
Which words of a query a search by meaning looks for.

* `mem_tokensOf` and `mem_expandChars` — what the tokens of a query are, and what the
  terms that some words are expanded to;
* `mem_meaningTerms` — a search by meaning looks for what the words contribute that are
  tokens as a whole;
* `token_expanded_iff` — so a token is looked for if such a word contributes it, as each
  such word contributes itself;
* `not_forall_token_expanded` — and else it may be left out.

Design notes: tokens are cut at every character that is no part of a word, words at
blanks alone.  A word with a hyphen or an apostrophe inside is cut into several tokens,
none of which is the word, and then the word is not expanded.
-/
import SourceRetrieval.Proofs.Listing
import SourceRetrieval.Query.Plan

namespace SourceRetrieval

open Text

namespace Query

variable {cs word term : List Char} {words : List (List Char)}

/-- A token is a piece of the query in lower case that is worth looking for. -/
theorem mem_tokensOf :
    term ∈ tokensOf cs ↔
      (∃ piece ∈ splitBy (!isWordPart ·) cs, lower piece = term) ∧ isTerm term = true := by
  rw [tokensOf, mem_distinct, List.mem_filter, List.mem_map]

/-- The terms of some words are what the words contribute, as far as that is worth looking for. -/
theorem mem_expandChars :
    term ∈ expandChars words ↔ (∃ word ∈ words, term ∈ candidates word) ∧ isTerm term = true := by
  rw [expandChars, mem_distinct, List.mem_filter, List.mem_flatMap]

theorem lower_mem_candidates (word : List Char) : lower word ∈ candidates word := by
  rw [candidates, List.mem_append, List.flatMap_cons]
  exact .inl List.mem_cons_self

end Query

namespace QueryPlan

open Query

variable {cs word term : List Char} {query : String} {kind : Option SearchKind}

/-- A search by meaning looks for what the words contribute that are tokens as a whole. -/
theorem mem_meaningTerms :
    term ∈ meaningTerms cs ↔
      (∃ word ∈ wordsOf cs, lower word ∈ tokensOf cs ∧ term ∈ candidates word)
        ∧ isTerm term = true := by
  rw [meaningTerms, mem_expandChars]
  simp only [List.mem_filter, List.contains_iff_mem, and_assoc]

theorem lower_mem_meaningTerms (hword : word ∈ wordsOf cs) (htoken : lower word ∈ tokensOf cs) :
    lower word ∈ meaningTerms cs :=
  mem_meaningTerms.mpr
    ⟨⟨word, hword, htoken, lower_mem_candidates word⟩, (mem_tokensOf.mp htoken).2⟩

theorem meaningTerms_eq_nil_iff :
    meaningTerms cs = [] ↔ ∀ word ∈ wordsOf cs, lower word ∉ tokensOf cs := by
  rw [List.eq_nil_iff_forall_not_mem]
  constructor
  · intro hnone word hword htoken
    exact hnone _ (lower_mem_meaningTerms hword htoken)
  · intro hnone term hterm
    obtain ⟨⟨word, hword, htoken, -⟩, -⟩ := mem_meaningTerms.mp hterm
    exact hnone word hword htoken

/-! ### The plan -/

theorem mem_map_ofList {list : List (List Char)} {text : String} :
    text ∈ list.map String.ofList ↔ text.toList ∈ list := by
  rw [List.mem_map]
  constructor
  · rintro ⟨chars, hchars, rfl⟩
    rwa [String.toList_ofList]
  · exact fun h => ⟨text.toList, h, String.ofList_toList⟩

theorem mem_tokens_make {text : String} :
    text ∈ (make query kind).tokens ↔ text.toList ∈ tokensOf (make query kind).query.toList := by
  simp only [make, String.toList_ofList, mem_map_ofList]

theorem expansions_make (h : (make query kind).kind = .semantic) :
    (make query kind).expansions
      = (meaningTerms (make query kind).query.toList).map String.ofList := by
  simp only [make, String.toList_ofList] at h ⊢
  rw [if_pos h]

/-- In the plan of a search by meaning a token is looked for just if a word contributes it that is
a token as a whole.  Each such word is looked for itself, and without any such word nothing is. -/
theorem token_expanded_iff (query : String) (kind : Option SearchKind) :
    let plan := make query kind
    let words := wordsOf plan.query.toList
    plan.kind = .semantic →
      (∀ token ∈ plan.tokens, token ∈ plan.expansions ↔
        ∃ word ∈ words, String.ofList (lower word) ∈ plan.tokens ∧ token.toList ∈ candidates word)
      ∧ (∀ word ∈ words, String.ofList (lower word) ∈ plan.tokens →
        String.ofList (lower word) ∈ plan.expansions)
      ∧ (plan.expansions = [] ↔ ∀ word ∈ words, String.ofList (lower word) ∉ plan.tokens) := by
  intro plan words hkind
  have hexpansions : plan.expansions = (meaningTerms plan.query.toList).map String.ofList :=
    expansions_make hkind
  have htokens : ∀ text : String, text ∈ plan.tokens ↔ text.toList ∈ tokensOf plan.query.toList :=
    fun text => mem_tokens_make
  rw [hexpansions]
  simp only [htokens, mem_map_ofList, String.toList_ofList]
  refine ⟨fun token htoken => ?_, fun word => lower_mem_meaningTerms, ?_⟩
  · -- A token is worth looking for, which is all that the terms ask besides.
    rw [mem_meaningTerms]
    exact and_iff_left (mem_tokensOf.mp htoken).2
  · rw [List.map_eq_nil_iff]
    exact meaningTerms_eq_nil_iff

/-- Of two words the one with an apostrophe is left out, the other is looked for. -/
theorem token_expanded_apostrophe :
    (make "user's login" (some .semantic)).kind = .semantic
      ∧ "login" ∈ (make "user's login" (some .semantic)).expansions := by
  refine ⟨rfl, ?_⟩
  exact (token_expanded_iff "user's login" (some .semantic) rfl).2.1 "login".toList
    (by decide) (by decide)

/-- A token need not be looked for, and nothing may be although there are tokens: a word with a
hyphen is two tokens and neither of them. -/
theorem not_forall_token_expanded :
    ¬∀ (query : String) (kind : Option SearchKind), (make query kind).kind = .semantic →
      (∀ token ∈ (make query kind).tokens, token ∈ (make query kind).expansions)
        ∧ ((make query kind).tokens ≠ [] → (make query kind).expansions ≠ []) := by
  intro h
  have hnothing : (make "user-auth" (some .semantic)).expansions = [] := by decide
  have htokens : (make "user-auth" (some .semantic)).tokens = ["user", "auth"] := by
    decide
  refine (h "user-auth" (some .semantic) rfl).2 ?_ hnothing
  rw [htokens]
  exact List.cons_ne_nil _ _

end QueryPlan

end SourceRetrieval
