/-
The order of an answer.

Hits are ranked by score, then by the shorter relative path, the earlier first
match and the path (`Hit.Before`).

* `Hit.rank_eq_lt_iff` — the comparison of hits is that order;
* `rankHits_eq_of_perm` — hits with different paths are ranked in one way,
  whatever order they come in;
* `search_withFiles` — of a larger answer a smaller one is the beginning;
* `ranked_truncation` — both together.

Design notes: the comparison is a lexicographic one of four keys, from which its
laws are taken.  Nothing before the ranking knows how many files are asked for.
-/
import Mathlib.Data.List.Nodup
import SourceRetrieval.Engine.Search
import SourceRetrieval.Proofs.Listing

namespace SourceRetrieval

namespace Hit

/-! ### The comparison of hits -/

theorem compareLines_eq_compareLex :
    compareLines = compareLex (compareOn Option.isNone) (compareOn (·.getD 0)) := by
  funext a b
  cases a <;> cases b <;> rfl

instance : Std.TransCmp compareLines := by
  rw [compareLines_eq_compareLex]
  infer_instance

instance : Std.LawfulEqCmp compareLines where
  eq_of_compare {a b} h := by
    cases a <;> cases b <;> simp_all [compareLines]

/-- Whether one first line stands before another, none standing last. -/
def Sooner : Option Nat → Option Nat → Prop
  | some a, some b => a < b
  | some _, none => True
  | none, _ => False

theorem compareLines_eq_lt_iff {a b : Option Nat} : compareLines a b = .lt ↔ Sooner a b := by
  cases a <;> cases b <;> simp [compareLines, Sooner, Nat.compare_eq_lt]

/-- One hit stands before another: it has the greater score, or else the shorter relative path,
or else the earlier first match, or else the path that comes first. -/
def Before (a b : Hit) : Prop :=
  totalKey b.scored.score < totalKey a.scored.score
    ∨ totalKey a.scored.score = totalKey b.scored.score
      ∧ (a.file.relativePath.utf8ByteSize < b.file.relativePath.utf8ByteSize
        ∨ a.file.relativePath.utf8ByteSize = b.file.relativePath.utf8ByteSize
          ∧ (Sooner a.firstLine? b.firstLine?
            ∨ a.firstLine? = b.firstLine? ∧ a.file.path.text < b.file.path.text))

theorem rank_eq_compareLex :
    rank = compareLex (fun a b => compareScores a.scored.score b.scored.score)
      (compareLex (compareOn (·.file.relativePath.utf8ByteSize))
        (compareLex (fun a b => compareLines a.firstLine? b.firstLine?)
          (compareOn (·.file.path.text)))) := rfl

instance : Std.TransCmp compareScores :=
  inferInstanceAs (Std.TransCmp fun a b => compareOn totalKey b a)

instance : Std.TransCmp rank := by
  have hscore : Std.TransCmp fun a b : Hit => compareScores a.scored.score b.scored.score :=
    inferInstanceAs (Std.TransCmp fun a b : Hit => compareOn (totalKey ·.scored.score) b a)
  have hline : Std.TransCmp fun a b : Hit => compareLines a.firstLine? b.firstLine? := {
    eq_swap := Std.OrientedCmp.eq_swap
    isLE_trans := Std.TransCmp.isLE_trans }
  rw [rank_eq_compareLex]
  infer_instance

theorem rank_eq_lt_iff {a b : Hit} : a.rank b = .lt ↔ a.Before b := by
  have hscore : compareScores a.scored.score b.scored.score = .eq
      ↔ totalKey a.scored.score = totalKey b.scored.score := by
    rw [compareScores, Std.LawfulEqCmp.compare_eq_iff_eq]
    exact eq_comm
  have htext : compare a.file.path.text b.file.path.text = .lt
      ↔ a.file.path.text < b.file.path.text := by
    exact compareOfLessAndEq_eq_lt
  rw [rank, Ordering.then_eq_lt, Ordering.then_eq_lt, Ordering.then_eq_lt, hscore, htext,
    compareScores, compareLines_eq_lt_iff, Std.LawfulEqCmp.compare_eq_iff_eq,
    Std.LawfulEqCmp.compare_eq_iff_eq, Nat.compare_eq_lt, Int.compare_eq_lt]
  rfl

theorem text_eq_of_rank_eq {a b : Hit} (h : a.rank b = .eq) :
    a.file.path.text = b.file.path.text := by
  rw [rank, Ordering.then_eq_eq, Ordering.then_eq_eq, Ordering.then_eq_eq] at h
  exact Std.LawfulEqCmp.eq_of_compare h.2.2.2

end Hit

/-! ### Ranking -/

/-- The texts of the paths of some hits. -/
def pathTexts (hits : List Hit) : List String := hits.map (·.file.path.text)

theorem perm_rankHits (hits : List Hit) : (rankHits hits).Perm hits := List.mergeSort_perm _ _

/-- Hits with different paths are ranked with each before those that follow. -/
theorem pairwise_rankHits {hits : List Hit} (h : (pathTexts hits).Nodup) :
    (rankHits hits).Pairwise Hit.Before := by
  have hsorted : (rankHits hits).Pairwise fun a b => a.rank b = .lt :=
    pairwise_lt_mergeSort (fun hit : Hit => hit.file.path.text)
      (fun _ _ => Hit.text_eq_of_rank_eq) h
  exact hsorted.imp Hit.rank_eq_lt_iff.mp

/-- Hits with different paths are ranked in one way, whatever order they come in. -/
theorem rankHits_eq_of_perm {hits hits' : List Hit} (h : (pathTexts hits).Nodup)
    (hperm : hits'.Perm hits) : rankHits hits' = rankHits hits := by
  refine mergeSort_compare_eq_of_perm hperm fun a ha b hb heq => ?_
  exact List.inj_on_of_nodup_map h ha hb (Hit.text_eq_of_rank_eq heq)

/-- A hit left out stands behind every hit kept. -/
theorem before_of_not_mem_take {hits : List Hit} (h : (pathTexts hits).Nodup) {n : Nat}
    {kept omitted : Hit} (hkept : kept ∈ (rankHits hits).take n) (homitted : omitted ∈ hits)
    (hout : omitted ∉ (rankHits hits).take n) : kept.Before omitted :=
  rel_of_not_mem_take (pairwise_rankHits h) hkept ((perm_rankHits hits).mem_iff.mpr homitted) hout

/-- The names of the languages of some files do not depend on the order of the files. -/
theorem languageNames_eq_of_perm {files files' : List AnalyzedFile} (hperm : files'.Perm files) :
    SearchMetadata.languageNames files' = SearchMetadata.languageNames files := by
  refine mergeSort_compare_eq_of_perm (perm_distinct (hperm.filterMap _)) fun a _ b _ heq => ?_
  exact Std.LawfulEqCmp.eq_of_compare heq

/-- The answer that hits with different paths make does not depend on the order in which they
come in. -/
theorem answer_eq_of_perm {hits hits' : List Hit} (h : (pathTexts hits).Nodup)
    (hperm : hits'.Perm hits) (options : ResolvedOptions) (metadata : SearchMetadata) :
    Engine.answer options metadata hits' = Engine.answer options metadata hits := by
  have hcount : hits'.foldr (fun hit sum => hit.scored.matchCount + sum) 0
      = hits.foldr (fun hit sum => hit.scored.matchCount + sum) 0 := by
    refine hperm.foldr_eq' (fun a _ b _ sum => ?_) 0
    exact Nat.add_left_comm _ _ _
  have hlanguages : metadata.withLanguages (hits'.map (·.file))
      = metadata.withLanguages (hits.map (·.file)) := by
    rw [SearchMetadata.withLanguages, SearchMetadata.withLanguages,
      languageNames_eq_of_perm (hperm.map _)]
  rw [Engine.answer, Engine.answer, rankHits_eq_of_perm h hperm, hlanguages]
  simp only [hcount]

/-! ### Asking for fewer files -/

/-- The options with another number of files. -/
def SearchOptions.withFiles (options : SearchOptions) (n : Nat) : SearchOptions :=
  { options with maxFiles := some (n : Int) }

open SearchOptions in
theorem settleFiles_eq {config : Config} {kind : SearchKind} {n : Nat} (hn : 1 ≤ n)
    (hlimit : n ≤ filesLimit config) : settleFiles config kind (some (n : Int)) = (n, none) := by
  rw [settleFiles, settleNumber, if_neg (by omega), if_neg (by omega)]
  rfl

open SearchOptions in
/-- A number of files within the limit is taken as it is and changes nothing else. -/
theorem resolve_withFiles (options : SearchOptions) (config : Config) (kind : SearchKind)
    {n m : Nat} (hn : 1 ≤ n) (hnm : n ≤ m) (hm : m ≤ filesLimit config) :
    ((options.withFiles m).resolve config kind).maxFiles = m
      ∧ (options.withFiles n).resolve config kind
        = { (options.withFiles m).resolve config kind with maxFiles := n } := by
  simp only [withFiles, resolve, settleFiles_eq hn (Nat.le_trans hnm hm),
    settleFiles_eq (Nat.le_trans hn hnm) hm]
  exact ⟨trivial, rfl⟩

namespace Engine

theorem collectHits_maxFiles (engine : Engine) (tree : FileTree) (plan : QueryPlan)
    (options : ResolvedOptions) (n : Nat) (candidates : List Candidate) :
    engine.collectHits tree plan { options with maxFiles := n } candidates
      = engine.collectHits tree plan options candidates := by
  induction candidates with
  | nil => rfl
  | cons candidate rest ih =>
    rw [collectHits, collectHits, ih]
    rfl

/-- What a query finds does not depend on how many files are asked for. -/
theorem searchPlan_maxFiles (engine : Engine) (tree : FileTree) (plan : QueryPlan)
    (options : ResolvedOptions) (n : Nat) (cancelled : Bool) (session : Session) :
    ∃ (metadata : SearchMetadata) (hits : List Hit) (after : Session),
      engine.searchPlan tree plan options cancelled session
          = (answer options metadata hits, after)
        ∧ engine.searchPlan tree plan { options with maxFiles := n } cancelled session
          = (answer { options with maxFiles := n } metadata hits, after) := by
  refine ⟨_, _, _, rfl, ?_⟩
  rw [searchPlan, collectHits_maxFiles]
  rfl

theorem answer_maxFiles (options : ResolvedOptions) (metadata : SearchMetadata) (hits : List Hit)
    {n : Nat} (hn : n ≤ options.maxFiles) :
    (answer { options with maxFiles := n } metadata hits).files
        = (answer options metadata hits).files.take n
      ∧ (answer { options with maxFiles := n } metadata hits).totalMatches
        = (answer options metadata hits).totalMatches
      ∧ (answer { options with maxFiles := n } metadata hits).metadata
        = (answer options metadata hits).metadata := by
  refine ⟨?_, rfl, rfl⟩
  change (((rankHits hits).take n).map _) = (((rankHits hits).take options.maxFiles).map _).take n
  rw [← List.map_take, List.take_take, Nat.min_eq_left hn]

/-- Of the answer with at most `m` files the one with at most `n` is the beginning, and what is
known of the search is the same. -/
theorem search_withFiles (engine : Engine) (tree : FileTree) (query : String)
    (options : SearchOptions) (cancelled : Bool) {n m : Nat} (hn : 1 ≤ n) (hnm : n ≤ m)
    (hm : m ≤ SearchOptions.filesLimit engine.config) :
    let fewer := (engine.search tree query (options.withFiles n) cancelled).1
    let more := (engine.search tree query (options.withFiles m) cancelled).1
    fewer.files = more.files.take n ∧ fewer.totalMatches = more.totalMatches
      ∧ fewer.metadata = more.metadata := by
  have hkind : ∀ k, QueryPlan.make query (options.withFiles k).kind
      = QueryPlan.make query options.kind := fun _ => rfl
  obtain ⟨hfiles, hresolve⟩ := resolve_withFiles options engine.config
    (QueryPlan.make query options.kind).kind hn hnm hm
  simp only [search, hkind, hresolve]
  -- A query without terms is answered at once.
  split
  · exact ⟨List.take_nil.symm, rfl, rfl⟩
  · obtain ⟨metadata, hits, after, hmore, hfewer⟩ := engine.searchPlan_maxFiles tree
      (QueryPlan.make query options.kind)
      ((options.withFiles m).resolve engine.config (QueryPlan.make query options.kind).kind) n
      cancelled { cache := engine.cache }
    simp only [run, StateT.run, hmore, hfewer]
    exact answer_maxFiles _ metadata hits (by rw [hfiles]; exact hnm)

/-- To rank hits is to put them in another order.  What is kept of hits with different paths is
the same in whatever order they come in: each path once, every hit before those that follow
and before all that are left out; and the whole answer is the same.  The answer with at most `n`
files is the beginning of the one with at most `m`. -/
theorem ranked_truncation :
    (∀ hits : List Hit, (rankHits hits).Perm hits)
    ∧ (∀ (hits hits' : List Hit) (n : Nat), (pathTexts hits).Nodup → hits'.Perm hits →
      (rankHits hits').take n = (rankHits hits).take n
        ∧ (pathTexts ((rankHits hits).take n)).Nodup
        ∧ ((rankHits hits).take n).Pairwise Hit.Before
        ∧ ∀ kept ∈ (rankHits hits).take n, ∀ omitted ∈ hits,
          omitted ∉ (rankHits hits).take n → kept.Before omitted)
    ∧ (∀ (hits hits' : List Hit) (options : ResolvedOptions) (metadata : SearchMetadata),
      (pathTexts hits).Nodup → hits'.Perm hits →
        answer options metadata hits' = answer options metadata hits)
    ∧ ∀ (engine : Engine) (tree : FileTree) (query : String) (options : SearchOptions)
      (cancelled : Bool) (n m : Nat), 1 ≤ n → n ≤ m → m ≤ SearchOptions.filesLimit engine.config →
      let fewer := (engine.search tree query (options.withFiles n) cancelled).1
      let more := (engine.search tree query (options.withFiles m) cancelled).1
      fewer.files = more.files.take n ∧ fewer.totalMatches = more.totalMatches
        ∧ fewer.metadata = more.metadata := by
  refine ⟨perm_rankHits, ?_, ?_, ?_⟩
  · intro hits hits' n hdistinct hperm
    have hranked := pairwise_rankHits hdistinct
    refine ⟨by rw [rankHits_eq_of_perm hdistinct hperm], ?_,
      hranked.sublist (List.take_sublist _ _), fun kept hkept omitted => before_of_not_mem_take hdistinct hkept⟩
    have hnodup : (pathTexts (rankHits hits)).Nodup :=
      (((perm_rankHits hits).map _).nodup_iff).mpr hdistinct
    exact hnodup.sublist ((List.take_sublist _ _).map _)
  · intro hits hits' options metadata hdistinct hperm
    exact answer_eq_of_perm hdistinct hperm options metadata
  · intro engine tree query options cancelled n m hn hnm hm
    exact search_withFiles engine tree query options cancelled hn hnm hm

end Engine

end SourceRetrieval
