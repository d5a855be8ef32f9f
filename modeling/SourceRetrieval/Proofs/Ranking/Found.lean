/-
What a search finds in a file.

* `Wanted` — the texts that a query asks for;
* `foundRanges` — the ranges of all that a search finds, in the order it is found;
* `exists_covers_of_mem_foundRanges` — each of them covers a text that is wanted;
* `exists_mem_foundRanges_covering` — no place where such a text stands is passed over
  (`SoughtAt`);
* `pairwise_usageRanges` — references and declarations of a name begin at different offsets.

Design notes: offsets are found in three texts, the content, its lower-case form and single
lines of it, and all of them are brought back to a part of the content.
-/
import SourceRetrieval.Proofs.Listing
import SourceRetrieval.Proofs.Ranking.LineByLine
import SourceRetrieval.Ranking.Score

namespace SourceRetrieval

open Text

namespace Ranking

/-! ### What a query asks for -/

/-- A text is one of the terms up to the case of ASCII letters. -/
def IsTermOf (terms : List String) (found : List Char) : Prop :=
  ∃ term ∈ terms, Query.lower found = Query.lower term.toList

/-- The declared name that a search for a declaration takes, if one fits. -/
def declaredName? (weights : Weights) (threshold : Float32) (plan : QueryPlan)
    (outline : Outline) : Option String :=
  (plan.symbol.filter (!·.isEmpty)).bind fun wanted =>
    (bestName? (nameTier weights threshold wanted) (candidateNames outline plan.kind)).map (·.2)

/-- A text is the declared name that fits, or one of the tokens if none does. -/
def IsNameOrToken (weights : Weights) (threshold : Float32) (plan : QueryPlan) (outline : Outline)
    (found : List Char) : Prop :=
  match declaredName? weights threshold plan outline with
  | some name => name ∈ candidateNames outline plan.kind ∧ found = name.toList
  | none => IsTermOf plan.tokens found

/-- The texts that a query asks for. -/
def Wanted (weights : Weights) (threshold : Float32) (plan : QueryPlan) (outline : Outline)
    (found : List Char) : Prop :=
  match plan.kind with
  | .keyword => IsTermOf plan.tokens found
  | .semantic => IsTermOf plan.expansions found
  | .function | .classes => IsNameOrToken weights threshold plan outline found
  | .usage => ∃ name ∈ plan.symbol, found = name.toList

/-! ### What a search finds -/

/-- The occurrences of some terms. -/
def termHits (view : View) (terms : List String) : List Hit :=
  terms.flatMap fun term => tokenHits term.toList (occurrences term.toList view.lowered)

/-- The terms that earn points. -/
def scoringTerms (weights : Weights) (view : View) (terms : List String) : List String :=
  terms.filter fun term => !((tokenScore weights view term.toList).1 ≤ 0)

/-- The occurrences of the declared name that fits, or else of the tokens. -/
def symbolHits (weights : Weights) (threshold : Float32) (view : View) (plan : QueryPlan) :
    List Hit :=
  match declaredName? weights threshold plan view.outline with
  | some name => tokenHits name.toList (wordOccurrences name.toList view.chars)
  | none => termHits view plan.tokens

/-- The references to a name, and where it stands on the lines that declare it. -/
def usageRanges (view : View) (symbol : Option String) : List MatchRange :=
  match symbol.filter (!·.isEmpty) with
  | some name =>
    let declared := declaredLines view.outline name
    (findReferences view.chars name.toList declared).map Reference.range
      ++ declared.filterMap (declaredRange? view name.toList)
  | none => []

/-- All that a search finds in a file. -/
def foundRanges (weights : Weights) (threshold : Float32) (plan : QueryPlan) (view : View) :
    List MatchRange :=
  match plan.kind with
  | .keyword => (termHits view plan.tokens).map view.range
  | .semantic => (termHits view (scoringTerms weights view plan.expansions)).map view.range
  | .function | .classes => (symbolHits weights threshold view plan).map view.range
  | .usage => usageRanges view plan.symbol

/-! ### Where the texts stand -/

/-- One of some terms stands at an offset, up to the case of ASCII letters. -/
def TermAt (terms : List String) (content : List Char) (offset : Nat) : Prop :=
  ∃ term ∈ terms, ∃ found, found ≠ [] ∧ Query.lower found = term.toList
    ∧ StandsAt found content offset

/-- What a query looks for stands at an offset: a term, the declared name as a whole word, or a
use of a name outside the lines that declare it. -/
def SoughtAt (weights : Weights) (threshold : Float32) (plan : QueryPlan) (file : AnalyzedFile)
    (offset : Nat) : Prop :=
  let content := file.content.toList
  match plan.kind with
  | .keyword => TermAt plan.tokens content offset
  | .semantic => TermAt (scoringTerms weights (View.ofFile file) plan.expansions) content offset
  | .function | .classes =>
    match declaredName? weights threshold plan file.outline with
    | some name => offset ∈ wordOccurrences name.toList content
    | none => TermAt plan.tokens content offset
  | .usage => ∃ name ∈ plan.symbol, '\n' ∉ name.toList
    ∧ offset ∈ outsideOf (declaredLines file.outline name) content
      (wordOccurrences name.toList content)

/-! ### Occurrences of terms and names -/

variable {weights : Weights} {threshold : Float32} {plan : QueryPlan} {file : AnalyzedFile}
  {r : MatchRange}

theorem covers_range {found : List Char} {offset : Nat}
    (h : StandsAt found file.content.toList offset) :
    ((View.ofFile file).range (offset, byteLength found)).Covers file.content.toList found := by
  obtain ⟨before, after, hcontent, rfl⟩ := h
  refine ⟨before, after, hcontent, rfl, rfl, ?_⟩
  show (LineIndex.ofChars file.content.toList).lineOf (byteLength before) = _
  rw [hcontent, List.append_assoc, lineOf_byteLength]

theorem exists_covers_of_mem_termHits {terms : List String}
    (h : r ∈ (termHits (View.ofFile file) terms).map (View.ofFile file).range) :
    ∃ found, found ≠ [] ∧ r.Covers file.content.toList found ∧ IsTermOf terms found := by
  obtain ⟨hit, hhit, rfl⟩ := List.mem_map.mp h
  obtain ⟨term, hterm, hhit⟩ := List.mem_flatMap.mp hhit
  obtain ⟨offset, hoffset, rfl⟩ := List.mem_map.mp hhit
  obtain ⟨hne, hstands⟩ := standsAt_of_mem_occurrences hoffset
  -- The term is the lower-case form of what stands there, which is as long.
  obtain ⟨found, hfound, hlower⟩ := standsAt_lower hstands
  have hlength : byteLength term.toList = byteLength found := by
    rw [← hlower, byteLength_lower]
  refine ⟨found, ?_, ?_, term, hterm, ?_⟩
  · rintro rfl
    exact hne hlower.symm
  · rw [hlength]
    exact covers_range hfound
  · rw [← hlower, lower_lower]

/-- Wherever a term stands in the content, up to case, an occurrence of it was found that begins no
later and reaches into this one. -/
theorem exists_mem_termHits_covering {terms : List String} {offset : Nat}
    (h : TermAt terms file.content.toList offset) :
    ∃ r ∈ (termHits (View.ofFile file) terms).map (View.ofFile file).range,
      r.start ≤ offset ∧ offset < r.stop := by
  obtain ⟨term, hterm, found, hne, hlower, before, after, hcontent, rfl⟩ := h
  have hstands : StandsAt term.toList (View.ofFile file).lowered (byteLength before) := by
    refine ⟨Query.lower before, Query.lower after, ?_, (byteLength_lower before).symm⟩
    show Query.lower file.content.toList = _
    rw [hcontent, ← hlower]
    simp only [Query.lower, List.map_append]
  have hnonempty : term.toList ≠ [] := by
    rw [← hlower]
    exact fun h => hne (List.map_eq_nil_iff.mp h)
  obtain ⟨start, hstart, hbounds⟩ := exists_occurrence_covering hnonempty hstands
  exact ⟨_, List.mem_map_of_mem (List.mem_flatMap.mpr
    ⟨term, hterm, List.mem_map_of_mem hstart⟩), hbounds⟩

theorem covers_of_mem_wordOccurrences {name : List Char} {offset : Nat}
    (h : offset ∈ wordOccurrences name file.content.toList) :
    name ≠ [] ∧
      ((View.ofFile file).range (offset, byteLength name)).Covers file.content.toList name := by
  obtain ⟨hne, hstands⟩ := standsAt_of_mem_occurrences ((sublist_wordOccurrences _ _).mem h)
  exact ⟨hne, covers_range hstands⟩

theorem exists_mem_symbolHits_covering {name : List Char} {offset : Nat}
    (h : offset ∈ wordOccurrences name file.content.toList) :
    ∃ r ∈ (tokenHits name (wordOccurrences name (View.ofFile file).chars)).map
      (View.ofFile file).range, r.start ≤ offset ∧ offset < r.stop := by
  obtain ⟨hne, -⟩ := covers_of_mem_wordOccurrences h
  have hpos : byteLength name ≠ 0 := fun h => hne (byteLength_eq_zero_iff.mp h)
  exact ⟨_, List.mem_map_of_mem (List.mem_map_of_mem h), Nat.le_refl _,
    Nat.lt_add_of_pos_right (Nat.pos_of_ne_zero hpos)⟩

theorem better_eq_or (tier : String → Float) (best : Option (Float × String)) (name : String) :
    bestName?.better tier best name = some (tier name, name)
      ∨ bestName?.better tier best name = best := by
  rw [bestName?.better.eq_def]
  dsimp only
  exact (Decidable.em _).imp (fun h => if_pos h) fun h => if_neg h

theorem mem_of_bestName? {tier : String → Float} {names : List String} {best : Float × String}
    (h : bestName? tier names = some best) : best.2 ∈ names := by
  have hmem : ∀ best ∈ bestName? tier names, best.2 ∈ names := by
    refine List.foldlRecOn (motive := fun (found : Option (Float × String)) =>
      ∀ best ∈ found, best.2 ∈ names) names _ nofun fun found hfound name hname => ?_
    rcases better_eq_or tier found name with hbetter | hbetter
    · rw [hbetter]
      rintro _ ⟨⟩
      exact hname
    · rwa [hbetter]
  exact hmem best h

theorem mem_of_declaredName? {outline : Outline} {name : String}
    (h : declaredName? weights threshold plan outline = some name) :
    name ∈ candidateNames outline plan.kind := by
  obtain ⟨wanted, -, h⟩ := Option.bind_eq_some_iff.mp h
  obtain ⟨best, hbest, rfl⟩ := Option.map_eq_some_iff.mp h
  exact mem_of_bestName? hbest

theorem exists_covers_of_mem_symbolHits
    (h : r ∈ (symbolHits weights threshold (View.ofFile file) plan).map (View.ofFile file).range) :
    ∃ found, found ≠ [] ∧ r.Covers file.content.toList found
      ∧ IsNameOrToken weights threshold plan file.outline found := by
  have houtline : (View.ofFile file).outline = file.outline := rfl
  rw [symbolHits, houtline] at h
  simp only [IsNameOrToken]
  cases hname : declaredName? weights threshold plan file.outline with
  | none =>
    rw [hname] at h
    exact exists_covers_of_mem_termHits h
  | some name =>
    rw [hname] at h
    obtain ⟨hit, hhit, rfl⟩ := List.mem_map.mp h
    obtain ⟨offset, hoffset, rfl⟩ := List.mem_map.mp hhit
    obtain ⟨hne, hcovers⟩ := covers_of_mem_wordOccurrences hoffset
    exact ⟨name.toList, hne, hcovers, mem_of_declaredName? hname, rfl⟩

/-! ### Uses of a name -/

/-- What stands on a line that declares a name covers the name on that line. -/
theorem covers_of_declaredRange? {name : List Char} {line : Nat}
    (h : declaredRange? (View.ofFile file) name line = some r) :
    name ≠ [] ∧ r.Covers file.content.toList name ∧ (1 ≤ line → r.line = line) := by
  obtain ⟨front, text, back, hcontent, htext, hstart, hstop, hline⟩ :=
    exists_line file.content.toList line
  have hcut : cut ((View.ofFile file).index.lineStart line) ((View.ofFile file).index.lineEnd line)
      (View.ofFile file).chars = text := by
    show cut ((LineIndex.ofChars file.content.toList).lineStart line)
      ((LineIndex.ofChars file.content.toList).lineEnd line) file.content.toList = text
    rw [hstart, hstop, hcontent, cut_append]
  rw [declaredRange?, hcut] at h
  obtain ⟨offset, hoffset, hr⟩ := Option.bind_eq_some_iff.mp h
  obtain ⟨hne, before, after, rfl, rfl⟩ := standsAt_of_mem_occurrences
    ((sublist_wordOccurrences _ _).mem (List.mem_of_mem_head? hoffset))
  have hstarts : (View.ofFile file).index.lineStart line + byteLength before
      = byteLength (front ++ before) := by
    rw [byteLength_append, ← hstart]
    rfl
  have hparts : file.content.toList = (front ++ before) ++ name ++ (after ++ back) := by
    rw [hcontent]
    simp only [List.append_assoc]
  rw [hstarts] at hr
  obtain rfl := Option.some.inj hr
  refine ⟨hne, covers_range ⟨front ++ before, after ++ back, hparts, rfl⟩, fun hpos => ?_⟩
  have hbefore : before.count '\n' = 0 := by
    rw [List.count_eq_zero]
    exact fun hmem => htext (List.mem_append_left _ (List.mem_append_left _ hmem))
  have htextne : before ++ name ++ after ≠ [] := by
    simp [hne]
  show (LineIndex.ofChars file.content.toList).lineOf (byteLength (front ++ before)) = line
  rw [hparts, List.append_assoc, lineOf_byteLength, List.count_append, hbefore, Nat.add_zero]
  exact hline hpos htextne

theorem covers_of_mem_usageRanges {symbol : Option String}
    (h : r ∈ usageRanges (View.ofFile file) symbol) :
    ∃ name ∈ symbol, name.toList ≠ [] ∧ r.Covers file.content.toList name.toList := by
  rw [usageRanges] at h
  cases hsymbol : symbol.filter (!·.isEmpty) with
  | none =>
    rw [hsymbol] at h
    cases h
  | some name =>
    obtain ⟨hname, hne⟩ := Option.filter_eq_some_iff.mp hsymbol
    have hne : name.toList ≠ [] := by
      simpa using hne
    rw [hsymbol] at h
    refine ⟨name, hname, hne, ?_⟩
    rcases List.mem_append.mp h with h | h
    · obtain ⟨reference, hreference, rfl⟩ := List.mem_map.mp h
      exact (areReferences_findReferences _ _ _).covers reference hreference
    · obtain ⟨line, -, hline⟩ := List.mem_filterMap.mp h
      exact (covers_of_declaredRange? hline).2.1

theorem nodup_declaredLines (outline : Outline) (name : String) :
    (declaredLines outline name).Nodup :=
  (perm_sortOn _ _).nodup_iff.mpr (nodup_distinctFrom _ _)

/-- References and declarations of a name begin at different offsets, if declarations are on lines
of the file. -/
theorem pairwise_usageRanges {symbol : Option String}
    (h : ∀ name ∈ symbol, ∀ line ∈ declaredLines file.outline name, 1 ≤ line) :
    (usageRanges (View.ofFile file) symbol).Pairwise fun a b => a.start ≠ b.start := by
  rw [usageRanges]
  cases hsymbol : symbol.filter (!·.isEmpty) with
  | none => exact .nil
  | some name =>
    have hlines := h name (Option.filter_eq_some_iff.mp hsymbol).1
    -- The line of a range is told by its start, so ranges on different lines start apart.
    have happart : ∀ a b : MatchRange, a.Covers file.content.toList name.toList →
        b.Covers file.content.toList name.toList → a.line ≠ b.line → a.start ≠ b.start := by
      intro a b ha hb hne hstart
      rw [ha.line_eq, hb.line_eq, hstart] at hne
      exact hne rfl
    have hreferences := areReferences_findReferences file.content.toList name.toList
      (declaredLines file.outline name)
    refine List.pairwise_append.mpr ⟨?_, ?_, fun a ha b hb => ?_⟩
    · exact List.pairwise_map.mpr (hreferences.inOrder.imp Nat.ne_of_lt)
    · refine List.pairwise_filterMap.mpr ((nodup_declaredLines _ _).imp_of_mem ?_)
      intro line line' hline hline' hne a ha b hb
      obtain ⟨-, hcovers, hlineOf⟩ := covers_of_declaredRange? ha
      obtain ⟨-, hcovers', hlineOf'⟩ := covers_of_declaredRange? hb
      refine happart a b hcovers hcovers' ?_
      rw [hlineOf (hlines line hline), hlineOf' (hlines line' hline')]
      exact hne
    · obtain ⟨reference, hreference, rfl⟩ := List.mem_map.mp ha
      obtain ⟨line, hline, hb⟩ := List.mem_filterMap.mp hb
      obtain ⟨-, hcovers, hlineOf⟩ := covers_of_declaredRange? hb
      refine happart _ b (hreferences.covers reference hreference) hcovers ?_
      rw [hlineOf (hlines line hline)]
      rintro rfl
      exact hreferences.outside reference hreference hline

/-! ### All searches -/

theorem exists_covers_of_mem_foundRanges
    (h : r ∈ foundRanges weights threshold plan (View.ofFile file)) :
    ∃ found, found ≠ [] ∧ r.Covers file.content.toList found
      ∧ Wanted weights threshold plan file.outline found := by
  rw [foundRanges] at h
  simp only [Wanted]
  cases hkind : plan.kind with
  | keyword =>
    rw [hkind] at h
    exact exists_covers_of_mem_termHits h
  | semantic =>
    rw [hkind] at h
    obtain ⟨found, hne, hcovers, term, hterm, heq⟩ := exists_covers_of_mem_termHits h
    exact ⟨found, hne, hcovers, term, (List.mem_filter.mp hterm).1, heq⟩
  | function | classes =>
    rw [hkind] at h
    exact exists_covers_of_mem_symbolHits h
  | usage =>
    rw [hkind] at h
    obtain ⟨name, hname, hne, hcovers⟩ := covers_of_mem_usageRanges h
    exact ⟨name.toList, hne, hcovers, name, hname, rfl⟩

/-- Wherever what a query looks for stands, something was found that begins no later and reaches
there. -/
theorem exists_mem_foundRanges_covering {offset : Nat}
    (h : SoughtAt weights threshold plan file offset) :
    ∃ r ∈ foundRanges weights threshold plan (View.ofFile file),
      r.start ≤ offset ∧ offset < r.stop := by
  rw [foundRanges]
  simp only [SoughtAt] at h
  cases hkind : plan.kind with
  | keyword =>
    rw [hkind] at h
    exact exists_mem_termHits_covering h
  | semantic =>
    rw [hkind] at h
    exact exists_mem_termHits_covering h
  | function | classes =>
    rw [hkind] at h
    have houtline : (View.ofFile file).outline = file.outline := rfl
    dsimp only at h ⊢
    rw [symbolHits, houtline]
    cases hname : declaredName? weights threshold plan file.outline with
    | none =>
      rw [hname] at h
      exact exists_mem_termHits_covering h
    | some name =>
      rw [hname] at h
      exact exists_mem_symbolHits_covering h
  | usage =>
    rw [hkind] at h
    obtain ⟨name, hname, hline, hoffset⟩ := h
    obtain ⟨hne, -⟩ := covers_of_mem_wordOccurrences (List.mem_filter.mp hoffset).1
    have hsymbol : plan.symbol.filter (!·.isEmpty) = some name :=
      Option.filter_eq_some_iff.mpr ⟨hname, by simpa using hne⟩
    -- A use outside the lines that declare the name is a reference to it.
    rw [← map_start_findReferences _ hline] at hoffset
    obtain ⟨reference, hreference, rfl⟩ := List.mem_map.mp hoffset
    have hcovers := (areReferences_findReferences file.content.toList name.toList
      (declaredLines file.outline name)).covers reference hreference
    have hpos : byteLength name.toList ≠ 0 := fun h => hne (byteLength_eq_zero_iff.mp h)
    refine ⟨reference.range, ?_, Nat.le_refl _, ?_⟩
    · simp only [usageRanges, hsymbol]
      exact List.mem_append_left _ (List.mem_map_of_mem hreference)
    · have hstop : reference.range.stop = reference.start + byteLength name.toList :=
        hcovers.stop_eq
      omega

end Ranking

end SourceRetrieval
