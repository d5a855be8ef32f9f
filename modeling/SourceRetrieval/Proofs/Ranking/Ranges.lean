/-
The match ranges of a file are genuine.

* `inOrder_dropRepeats` — of occurrences in order those with different offsets are kept, and
  every offset is;
* `keeps_take` — of ranges in order the first are those with the smallest starts;
* `scoreFile_ranges_genuine` — the ranges of a file are the first of those found.
-/
import SourceRetrieval.Proofs.Ranking.Found

namespace SourceRetrieval

open Text

namespace Ranking

/-! ### Repeats -/

theorem sublist_dropRepeats (hits : List Hit) : (dropRepeats hits).Sublist hits := by
  fun_induction dropRepeats hits with
  | case1 first second rest heq ih =>
    exact ih.trans ((List.sublist_cons_self second rest).cons_cons first)
  | case2 first second rest hne ih => exact ih.cons_cons first
  | case3 hits => exact List.Sublist.refl hits

theorem mem_map_dropRepeats (hits : List Hit) :
    ∀ hit ∈ hits, hit.1 ∈ (dropRepeats hits).map (·.1) := by
  fun_induction dropRepeats hits with
  | case1 first second rest heq ih =>
    obtain ⟨hfirst, hrest⟩ := List.forall_mem_cons.mp ih
    exact List.forall_mem_cons.mpr
      ⟨hfirst, List.forall_mem_cons.mpr ⟨heq ▸ hfirst, hrest⟩⟩
  | case2 first second rest hne ih =>
    exact List.forall_mem_cons.mpr
      ⟨List.mem_cons_self, fun hit hmem => List.mem_cons_of_mem _ (ih hit hmem)⟩
  | case3 hits => exact fun hit hmem => List.mem_map_of_mem hmem

theorem inOrder_dropRepeats {hits : List Hit} (h : hits.Pairwise fun a b => a.1 ≤ b.1) :
    (dropRepeats hits).Pairwise fun a b => a.1 < b.1 := by
  fun_induction dropRepeats hits with
  | case1 first second rest heq ih =>
    exact ih (h.sublist ((List.sublist_cons_self second rest).cons_cons _))
  | case2 first second rest hne ih =>
    obtain ⟨hfirst, hrest⟩ := List.pairwise_cons.mp h
    obtain ⟨hsecond, -⟩ := List.pairwise_cons.mp hrest
    refine List.pairwise_cons.mpr ⟨fun hit hmem => ?_, ih hrest⟩
    have hle := hfirst second List.mem_cons_self
    rcases List.mem_cons.mp ((sublist_dropRepeats _).subset hmem) with rfl | hmem
    · omega
    · have hlater := hsecond hit hmem
      omega
  | case3 hits hshort =>
    match hits, hshort with
    | [], _ => exact .nil
    | [hit], _ => exact List.pairwise_singleton _ hit
    | first :: second :: rest, hshort => exact absurd rfl (hshort first second rest)

/-! ### The first ranges -/

/-- The ranges of a file are the first of those found, and its matches are no fewer. -/
structure Keeps (found : List MatchRange) (scored : Scored) : Prop where
  length_le : scored.ranges.length ≤ maxRanges
  length_le_matchCount : scored.ranges.length ≤ scored.matchCount
  inOrder : scored.ranges.Pairwise fun a b => a.start ≤ b.start
  mem_found : ∀ r ∈ scored.ranges, r ∈ found
  /-- A start that was found is left out only if all places are taken by smaller ones. -/
  smallest : ∀ r ∈ found, r.start ∉ scored.ranges.map (·.start) →
    scored.ranges.length = maxRanges ∧ ∀ kept ∈ scored.ranges, kept.start < r.start

variable {found ranges : List MatchRange} {scored : Scored}

theorem keeps_take (hranges : scored.ranges = ranges.take maxRanges)
    (hcount : ranges.length ≤ scored.matchCount)
    (hinOrder : ranges.Pairwise fun a b => a.start ≤ b.start) (hmem : ∀ r ∈ ranges, r ∈ found)
    (hstart : ∀ r ∈ found, r.start ∈ ranges.map (·.start)) : Keeps found scored := by
  have hlength : scored.ranges.length = min maxRanges ranges.length := by
    rw [hranges, List.length_take]
  refine ⟨by omega, by omega, ?_, fun r hr => ?_, fun r hr hout => ?_⟩
  · rw [hranges]
    exact hinOrder.sublist (List.take_sublist _ _)
  · rw [hranges] at hr
    exact hmem r (List.mem_of_mem_take hr)
  · -- A range with the start of `r` was cut off, so it stands behind all that are kept.
    obtain ⟨same, hsame, hsameStart⟩ := List.mem_map.mp (hstart r hr)
    have hnot : same ∉ ranges.take maxRanges := by
      intro htake
      rw [← hranges] at htake
      exact hout (hsameStart ▸ List.mem_map_of_mem htake)
    constructor
    · have hlt : maxRanges < ranges.length := by
        refine Nat.lt_of_not_le fun hle => ?_
        rw [List.take_of_length_le hle] at hnot
        exact hnot hsame
      omega
    · intro kept hkept
      have hle : kept.start ≤ same.start :=
        rel_of_not_mem_take hinOrder (hranges ▸ hkept) hsame hnot
      have hne : kept.start ≠ r.start := fun h => hout (h ▸ List.mem_map_of_mem hkept)
      have hsameStart : same.start = r.start := hsameStart
      omega

/-- A result comes from some occurrences, and counts them all. -/
structure Collects (view : View) (hits : List Hit) (scored : Scored) : Prop where
  ranges_eq : scored.ranges = view.ranges hits
  length_le : hits.length ≤ scored.matchCount

/-- Of occurrences the first are kept, one for each offset. -/
theorem Collects.keeps {view : View} {hits : List Hit} (h : Collects view hits scored) :
    Keeps (hits.map view.range) scored ∧ scored.ranges.Pairwise fun a b => a.start < b.start := by
  have hsub := sublist_dropRepeats (sortOn (·.1) hits)
  have hstrict : ((dropRepeats (sortOn (·.1) hits)).map view.range).Pairwise
      fun a b => a.start < b.start :=
    List.pairwise_map.mpr (inOrder_dropRepeats (pairwise_sortOn _ hits))
  have htake : scored.ranges
      = ((dropRepeats (sortOn (·.1) hits)).map view.range).take maxRanges := by
    rw [h.ranges_eq, View.ranges, List.map_take]
  constructor
  · refine keeps_take htake ?_ (hstrict.imp Nat.le_of_lt) (fun r hr => ?_) fun r hr => ?_
    · have hle := hsub.length_le
      have hcount := h.length_le
      rw [(perm_sortOn _ hits).length_eq] at hle
      rw [List.length_map]
      omega
    · obtain ⟨hit, hhit, rfl⟩ := List.mem_map.mp hr
      exact List.mem_map_of_mem (mem_sortOn.mp (hsub.subset hhit))
    · obtain ⟨hit, hhit, rfl⟩ := List.mem_map.mp hr
      have hmem := mem_map_dropRepeats (sortOn (·.1) hits) hit (mem_sortOn.mpr hhit)
      rw [List.map_map]
      exact hmem
  · rw [htake]
    exact hstrict.sublist (List.take_sublist _ _)

/-! ### What the searches keep -/

variable (weights : Weights) (threshold : Float32) (view : View) (plan : QueryPlan)

theorem tokenScore_snd (token : List Char) :
    (tokenScore weights view token).2 = occurrences token view.lowered := by
  rw [tokenScore]
  split
  next h => rw [occurrences, if_pos h]
  · rfl

theorem flatMap_tokenScores (terms : List String) :
    (tokenScores weights view terms).flatMap (·.2) = termHits view terms := by
  rw [tokenScores, List.flatMap_map]
  refine congrArg (terms.flatMap ·) (funext fun term => ?_)
  show tokenHits term.toList (tokenScore weights view term.toList).2 = _
  rw [tokenScore_snd]

theorem filter_tokenScores (terms : List String) :
    (tokenScores weights view terms).filter (fun entry => !(entry.1 ≤ 0))
      = tokenScores weights view (scoringTerms weights view terms) := by
  rw [tokenScores, List.filter_map]
  rfl

theorem collects_scoreWords (tokens : List String) :
    Collects view (termHits view tokens) (scoreWords weights view tokens) := by
  rw [scoreWords]
  split
  next h =>
    have hnone : view.ranges [] = [] := by
      simp [View.ranges, sortOn, dropRepeats]
    rw [List.isEmpty_iff.mp h]
    exact ⟨hnone.symm, Nat.le_refl 0⟩
  · rw [← flatMap_tokenScores weights]
    exact ⟨rfl, Nat.le_refl _⟩

theorem collects_scoreMeaning (terms : List String) :
    Collects view (termHits view (scoringTerms weights view terms))
      (scoreMeaning weights view terms) := by
  rw [← flatMap_tokenScores weights, ← filter_tokenScores]
  exact ⟨rfl, Nat.le_refl _⟩

theorem collects_scoreSymbol :
    Collects view (symbolHits weights threshold view plan)
      (scoreSymbol weights threshold view plan) := by
  rw [symbolHits, declaredName?, scoreSymbol]
  cases plan.symbol.filter (!·.isEmpty) with
  | none => exact collects_scoreWords weights view plan.tokens
  | some wanted =>
    rw [Option.bind_some]
    dsimp only
    cases bestName? (nameTier weights threshold wanted) (candidateNames view.outline plan.kind) with
    | none =>
      -- Only the score of the fallback is lowered.
      exact { collects_scoreWords weights view plan.tokens with }
    | some best =>
      refine ⟨rfl, ?_⟩
      show (tokenHits best.2.toList _).length ≤ max _ 1
      rw [tokenHits, List.length_map]
      exact Nat.le_max_left _ _

theorem ranges_scoreUses (symbol : Option String) :
    (scoreUses weights view symbol).ranges
        = (sortOn (·.start) (usageRanges view symbol)).take maxRanges
      ∧ (usageRanges view symbol).length ≤ (scoreUses weights view symbol).matchCount := by
  have hnone : ([] : List MatchRange) = (sortOn (·.start) ([] : List MatchRange)).take maxRanges := by
    simp [sortOn]
  rw [scoreUses, usageRanges]
  cases symbol.filter (!·.isEmpty) with
  | none => exact ⟨hnone, Nat.le_refl 0⟩
  | some name =>
    dsimp only
    split
    next h =>
      obtain ⟨hreferences, hdeclared⟩ := Bool.and_eq_true_iff.mp h
      rw [List.isEmpty_iff.mp hreferences, List.isEmpty_iff.mp hdeclared]
      exact ⟨hnone, Nat.le_refl 0⟩
    · exact ⟨rfl, Nat.le_refl _⟩

theorem keeps_scoreUses (symbol : Option String) :
    Keeps (usageRanges view symbol) (scoreUses weights view symbol) := by
  obtain ⟨hranges, hcount⟩ := ranges_scoreUses weights view symbol
  refine keeps_take hranges ?_ (pairwise_sortOn _ _) (fun r hr => mem_sortOn.mp hr) fun r hr => ?_
  · rwa [(perm_sortOn _ _).length_eq]
  · exact List.mem_map_of_mem (mem_sortOn.mpr hr)

theorem inOrder_scoreUses {file : AnalyzedFile} {symbol : Option String}
    (h : ∀ name ∈ symbol, ∀ line ∈ declaredLines file.outline name, 1 ≤ line) :
    (scoreUses weights (View.ofFile file) symbol).ranges.Pairwise fun a b => a.start < b.start := by
  have hne : (sortOn (·.start) (usageRanges (View.ofFile file) symbol)).Pairwise
      fun a b => a.start ≠ b.start :=
    (perm_sortOn _ _).symm.pairwise (pairwise_usageRanges h) Ne.symm
  rw [(ranges_scoreUses weights (View.ofFile file) symbol).1]
  have hlt : (sortOn (·.start) (usageRanges (View.ofFile file) symbol)).Pairwise
      fun a b => a.start < b.start :=
    ((pairwise_sortOn _ _).and hne).imp fun hab => Nat.lt_of_le_of_ne hab.1 hab.2
  exact hlt.sublist (List.take_sublist _ _)

theorem keeps_scoreFile (file : AnalyzedFile) :
    Keeps (foundRanges weights threshold plan (View.ofFile file))
        (scoreFile weights threshold plan file)
      ∧ ((plan.kind = .usage → ∀ name ∈ plan.symbol, ∀ line ∈ declaredLines file.outline name,
          1 ≤ line) →
        (scoreFile weights threshold plan file).ranges.Pairwise fun a b => a.start < b.start) := by
  rw [foundRanges, scoreFile]
  cases plan.kind with
  | keyword =>
    obtain ⟨hkeeps, hstrict⟩ := (collects_scoreWords weights (View.ofFile file) plan.tokens).keeps
    exact ⟨{ hkeeps with }, fun _ => hstrict⟩
  | semantic =>
    obtain ⟨hkeeps, hstrict⟩ :=
      (collects_scoreMeaning weights (View.ofFile file) plan.expansions).keeps
    exact ⟨{ hkeeps with }, fun _ => hstrict⟩
  | function | classes =>
    obtain ⟨hkeeps, hstrict⟩ :=
      (collects_scoreSymbol weights threshold (View.ofFile file) plan).keeps
    exact ⟨{ hkeeps with }, fun _ => hstrict⟩
  | usage =>
    have hkeeps := keeps_scoreUses weights (View.ofFile file) plan.symbol
    exact ⟨{ hkeeps with }, fun h => inOrder_scoreUses weights (h rfl)⟩

/-- The match ranges of a file, whatever it is searched for: they are at most 50 and no more than
the matches, in order, and each is on the line of its start and holds a text that the query asks
for.  The search finds something wherever such a text stands; of all that it finds those with the
smallest starts are kept, and no two of the same start, unless a use is declared on a line before
the first. -/
theorem scoreFile_ranges_genuine (weights : Weights) (threshold : Float32) (plan : QueryPlan)
    (file : AnalyzedFile) :
    let content := file.content.toList
    let found := foundRanges weights threshold plan (View.ofFile file)
    let scored := scoreFile weights threshold plan file
    scored.ranges.length ≤ 50 ∧ scored.ranges.length ≤ scored.matchCount
      ∧ scored.ranges.Pairwise (fun a b => a.start ≤ b.start)
      ∧ (∀ r ∈ scored.ranges, r ∈ found ∧ r.start < r.stop ∧ r.stop ≤ byteLength content
          ∧ OnBoundary content r.start ∧ OnBoundary content r.stop
          ∧ r.line = (takeBytes r.start content).count '\n' + 1
          ∧ Wanted weights threshold plan file.outline (cut r.start r.stop content))
      ∧ (∀ offset, SoughtAt weights threshold plan file offset →
          ∃ r ∈ found, r.start ≤ offset ∧ offset < r.stop)
      ∧ (∀ r ∈ found, r.start ∉ scored.ranges.map (·.start) →
          scored.ranges.length = 50 ∧ ∀ kept ∈ scored.ranges, kept.start < r.start)
      ∧ ((plan.kind = .usage → ∀ name ∈ plan.symbol, ∀ line ∈ declaredLines file.outline name,
            1 ≤ line) →
          scored.ranges.Pairwise fun a b => a.start < b.start) := by
  intro content found scored
  obtain ⟨hkeeps, hstrict⟩ := keeps_scoreFile weights threshold plan file
  refine ⟨hkeeps.length_le, hkeeps.length_le_matchCount, hkeeps.inOrder, fun r hr => ?_,
    fun offset => exists_mem_foundRanges_covering, hkeeps.smallest, hstrict⟩
  have hfound := hkeeps.mem_found r hr
  obtain ⟨text, hne, hcovers, hwanted⟩ := exists_covers_of_mem_foundRanges hfound
  have hline := hcovers.line_eq
  obtain ⟨before, after, hcontent, hstart, hstop, -⟩ := hcovers
  have hpos : byteLength text ≠ 0 := fun h => hne (byteLength_eq_zero_iff.mp h)
  have hcut : cut r.start r.stop content = text := by
    rw [hstop, hstart, show content = before ++ text ++ after from hcontent, cut_append]
  have hlength : byteLength content = byteLength before + byteLength text + byteLength after := by
    rw [show content = before ++ text ++ after from hcontent, byteLength_append, byteLength_append]
  refine ⟨hfound, by omega, by omega, ⟨before, text ++ after, ?_, hstart⟩,
    ⟨before ++ text, after, hcontent, ?_⟩, hline, ?_⟩
  · rw [← List.append_assoc]
    exact hcontent
  · rw [byteLength_append, ← hstart, hstop]
  · rwa [hcut]

end Ranking

end SourceRetrieval
