/-
How many files an answer may hold.

* `Config.problem?_eq_none_iff` — which settings make sense;
* `Yields` — what a piece of work returns has a property, whatever the cache holds;
* `length_findRelated_le`, `length_search_le` — no answer holds more files than its limit;
* `maxFiles_resolve_mem` — the limit of a search is within that of the configuration and
  within the ceiling (`maxFilesCeiling`);
* `files_within_limit` — so is the limit of every question, unless it is for related
  files, does not say how many, and the configuration allows more than the ceiling;
* `not_forall_limit_le_ceiling` — and then it is not.

Design notes: the limit for related files has a way of its own to its usual value, which
is not held against the ceiling.
-/
import SourceRetrieval.Proofs.Engine.Runs

namespace SourceRetrieval

/-! ### Options in range -/

theorem SearchKind.one_le_defaultMaxFiles (kind : SearchKind) : 1 ≤ kind.defaultMaxFiles := by
  cases kind <;> decide

namespace SearchOptions

/-- A number that is settled is between the bounds if the usual one is. -/
theorem settleNumber_mem (name : String) {low high usual : Nat} (hlow : low ≤ usual)
    (hhigh : usual ≤ high) (asked : Option Int) :
    low ≤ (settleNumber name low high usual asked).1
      ∧ (settleNumber name low high usual asked).1 ≤ high := by
  cases asked with
  | none => exact ⟨hlow, hhigh⟩
  | some n =>
    rw [settleNumber]
    split
    · exact ⟨hlow, hhigh⟩
    · split
      · exact ⟨Nat.le_trans hlow hhigh, Nat.le_refl high⟩
      · constructor
        all_goals omega

/-- The number of files is at least one and at most what the configuration allows. -/
theorem maxFiles_resolve_mem (options : SearchOptions) (config : Config) (kind : SearchKind) :
    1 ≤ (options.resolve config kind).maxFiles
      ∧ (options.resolve config kind).maxFiles ≤ filesLimit config := by
  have hlimit : 1 ≤ filesLimit config := by
    rw [filesLimit, clamp, maxFilesCeiling]
    omega
  refine settleNumber_mem _ ?_ (Nat.min_le_right _ _) options.maxFiles
  exact Nat.le_min.mpr ⟨kind.one_le_defaultMaxFiles, hlimit⟩

end SearchOptions

namespace Config

variable {config : Config}

/-- Settings make sense if each is in its range. -/
theorem problem?_eq_none_iff :
    config.problem? = none ↔
      0 < config.walker.maxFileSize ∧ 0 < config.search.maxFilesLimit
        ∧ (0 ≤ config.search.fuzzyThreshold ∧ config.search.fuzzyThreshold ≤ 1)
        ∧ (0 ≤ config.search.minScore ∧ config.search.minScore ≤ 100)
        ∧ (1 ≤ config.relations.maxHops ∧ config.relations.maxHops ≤ 3)
        ∧ 0 < config.relations.maxFiles := by
  simp only [problem?, ite_eq_right_iff, ite_eq_iff, reduceCtorEq, imp_false, and_false, false_or,
    Bool.not_eq_true', Bool.not_eq_false, Bool.and_eq_true, Bool.or_eq_true, decide_eq_true_eq,
    Nat.pos_iff_ne_zero, not_or, Nat.not_lt, ne_eq]

theorem filesLimit_eq (h : config.problem? = none) :
    SearchOptions.filesLimit config = min maxFilesCeiling config.search.maxFilesLimit := by
  obtain ⟨-, hpos, -⟩ := problem?_eq_none_iff.mp h
  rw [SearchOptions.filesLimit, SearchOptions.clamp, Nat.max_eq_right hpos]

end Config

namespace Engine

/-! ### What work returns -/

/-- What the work returns has the property. -/
def Yields {α : Type} (Q : α → Prop) (work : Work α) : Prop := ∀ session, Q (work session).1

variable {α β : Type} {Q : α → Prop} {R : β → Prop}

theorem Yields.pure {value : α} (h : Q value) : Yields Q (pure value) := fun _ => h

theorem Yields.bind {work : Work α} {next : α → Work β} (hwork : Yields Q work)
    (hnext : ∀ value, Q value → Yields R (next value)) : Yields R (work >>= next) :=
  fun session => hnext _ (hwork session) (work session).2

/-- What comes last decides what is returned. -/
theorem Yields.after {work : Work α} {next : α → Work β} (hnext : ∀ value, Yields R (next value)) :
    Yields R (work >>= next) :=
  fun session => hnext _ (work session).2

theorem Yields.run {engine : Engine} {work : Work α} (h : Yields Q work) :
    Q (engine.run work).1 := h _

/-! ### Related files -/

section Imports

open ImportGraph

variable {graph : ImportGraph} {load : Path → Work (Option AnalyzedFile)} {maxHops maxFiles : Nat}

/-- Edges are followed only as long as there is room. -/
theorem yields_followEdges (depth : Nat) (edges : List (String × Path)) {found : Found}
    (h : found.related.length ≤ maxFiles) :
    Yields (·.1.related.length ≤ maxFiles) (followEdges load maxFiles depth edges found) := by
  induction edges generalizing found with
  | nil => exact .pure h
  | cons edge edges ih =>
    rw [followEdges]
    split
    · exact .pure h
    next hroom =>
      split
      · exact ih h
      · refine .after fun loaded => ?_
        cases loaded with
        | none => exact ih h
        | some file =>
          refine ih ?_
          rw [List.length_append]
          exact Nat.lt_of_not_le hroom

theorem yields_drain (fuel : Nat) {found : Found} (h : found.related.length ≤ maxFiles) :
    Yields (·.related.length ≤ maxFiles) (graph.drain load maxHops maxFiles fuel found) := by
  induction fuel generalizing found with
  | zero => exact .pure h
  | succ fuel ih =>
    rw [drain]
    split
    · exact .pure h
    next file depth rest hqueue =>
      split
      · exact ih h
      · have hfollow := @yields_followEdges load maxFiles depth (graph.dependencies file)
          { found with queue := rest } h
        refine Yields.bind hfollow fun result hresult => ?_
        obtain ⟨after, full⟩ := result
        cases full with
        | true => exact .pure hresult
        | false => exact ih hresult

theorem yields_traverse (start : AnalyzedFile) :
    Yields (·.length ≤ maxFiles) (graph.traverse load start maxHops maxFiles) :=
  (yields_drain _ (Nat.zero_le _)).bind fun _ h => .pure h

end Imports

variable (engine : Engine) (tree : FileTree)

/-- Importers take only the room that is left. -/
theorem yields_relatedFiles (walker : Walker) (start : AnalyzedFile) (target : Path)
    (maxHops limit : Nat) :
    Yields (·.length ≤ limit) (engine.relatedFiles tree walker start target maxHops limit) := by
  refine (yields_traverse start).bind fun imported himported => ?_
  split
  · exact .pure himported
  · refine .after fun importers => .pure ?_
    rw [List.length_append, List.length_take]
    omega

theorem length_findRelated_le (path : String) (options : SearchOptions) :
    (engine.findRelated tree path options).1.files.length
      ≤ relatedLimit engine.config options (options.resolve engine.config .keyword) := by
  let limit := relatedLimit engine.config options (options.resolve engine.config .keyword)
  let Fits (context : RetrievalContext) : Prop := context.files.length ≤ limit
  refine Yields.run (Q := Fits) (.after fun loaded => ?_)
  cases loaded with
  | error failure => exact .pure (Nat.zero_le _)
  | ok loaded =>
    refine (yields_relatedFiles engine tree _ _ _ _ limit).bind fun related hrelated => ?_
    refine .after fun session => .pure ?_
    change ((related.map _).mergeSort _).length ≤ limit
    rw [(List.mergeSort_perm _ _).length_eq, List.length_map]
    exact hrelated

/-! ### Searches -/

/-- The number of files that is in force for a search. -/
def searchLimit (config : Config) (options : SearchOptions) (query : String) : Nat :=
  (options.resolve config (QueryPlan.make query options.kind).kind).maxFiles

theorem searchLimit_mem (config : Config) (options : SearchOptions) (query : String) :
    1 ≤ searchLimit config options query
      ∧ searchLimit config options query ≤ SearchOptions.filesLimit config :=
  options.maxFiles_resolve_mem config _

theorem length_search_le (query : String) (options : SearchOptions) (cancelled : Bool) :
    (engine.search tree query options cancelled).1.files.length
      ≤ searchLimit engine.config options query := by
  rw [search]
  split
  · exact Nat.zero_le _
  · change ((List.take _ _).map _).length ≤ _
    rw [List.length_map]
    exact List.length_take_le _ _

end Engine

/-! ### Questions -/

/-- Something that is asked of an engine and answered with files. -/
inductive Question where
  | search (query : String) (cancelled : Bool)
  | searchMeaning (query : String)
  | findUsages (name : String)
  | findRelated (path : String)

namespace Question

/-- The answer of an engine. -/
def answer (engine : Engine) (tree : FileTree) (options : SearchOptions) :
    Question → RetrievalContext
  | search query cancelled => (engine.search tree query options cancelled).1
  | searchMeaning query => (engine.searchMeaning tree query options).1
  | findUsages name => (engine.findUsages tree name options).1
  | findRelated path => (engine.findRelated tree path options).1

/-- The number of files that is in force. -/
def limit (config : Config) (options : SearchOptions) : Question → Nat
  | search query _ => Engine.searchLimit config options query
  | searchMeaning query => Engine.searchLimit config { options with kind := some .semantic } query
  | findUsages name => Engine.searchLimit config { options with kind := some .usage } name
  | findRelated _ => Engine.relatedLimit config options (options.resolve config .keyword)

theorem length_answer_le (engine : Engine) (tree : FileTree) (options : SearchOptions)
    (question : Question) :
    (question.answer engine tree options).files.length ≤ question.limit engine.config options := by
  cases question with
  | search query cancelled =>
    rw [answer, limit]
    exact engine.length_search_le tree query options cancelled
  | searchMeaning query =>
    rw [answer, limit, Engine.searchMeaning]
    exact engine.length_search_le tree query { options with kind := some .semantic } false
  | findUsages name =>
    rw [answer, limit, Engine.findUsages]
    exact engine.length_search_le tree name { options with kind := some .usage } false
  | findRelated path => exact engine.length_findRelated_le tree path options

/-- Whether the question leaves it to the configuration how many related files there may be. -/
def IsUsualRelated (options : SearchOptions) : Question → Prop
  | findRelated _ => options.maxFiles = none
  | _ => False

variable {config : Config} {options : SearchOptions} {question : Question}

/-- The limit of any other question is one that options are resolved to. -/
theorem limit_mem_of_not (h : ¬question.IsUsualRelated options) :
    1 ≤ question.limit config options
      ∧ question.limit config options ≤ SearchOptions.filesLimit config := by
  cases question with
  | search query cancelled => exact Engine.searchLimit_mem config options query
  | searchMeaning query => exact Engine.searchLimit_mem config _ query
  | findUsages name => exact Engine.searchLimit_mem config _ name
  | findRelated path =>
    rw [limit, Engine.relatedLimit, if_pos (Option.isSome_iff_ne_none.mpr h)]
    exact options.maxFiles_resolve_mem config _

theorem limit_of_isUsualRelated (hvalid : config.problem? = none)
    (h : question.IsUsualRelated options) :
    question.limit config options = min config.search.maxFilesLimit config.relations.maxFiles := by
  obtain ⟨-, hlimit, -, -, -, hfiles⟩ := Config.problem?_eq_none_iff.mp hvalid
  cases question with
  | findRelated path =>
    have hnone : options.maxFiles = none := h
    rw [limit, Engine.relatedLimit, hnone, if_neg (by simp), SearchOptions.clamp,
      Nat.max_eq_right hfiles, Nat.max_eq_right hlimit]
  | _ => exact h.elim

end Question

/-- With any settings that make sense, the limit of a question is at least one and at most what the
settings allow, and the answer holds at most so many files.  It exceeds the ceiling if and only if
the question leaves the number of related files to settings that have both numbers above it. -/
theorem files_within_limit (engine : Engine) (hvalid : engine.config.problem? = none)
    (tree : FileTree) (options : SearchOptions) (question : Question) :
    let config := engine.config
    let limit := question.limit config options
    1 ≤ limit ∧ limit ≤ config.search.maxFilesLimit
      ∧ (question.answer engine tree options).files.length ≤ limit
      ∧ (maxFilesCeiling < limit ↔ question.IsUsualRelated options
        ∧ maxFilesCeiling < config.relations.maxFiles
        ∧ maxFilesCeiling < config.search.maxFilesLimit) := by
  intro config limit
  have hlength := question.length_answer_le engine tree options
  obtain ⟨-, hlimit, -, -, -, hfiles⟩ := Config.problem?_eq_none_iff.mp hvalid
  by_cases husual : question.IsUsualRelated options
  · have heq : limit = min config.search.maxFilesLimit config.relations.maxFiles :=
      Question.limit_of_isUsualRelated hvalid husual
    refine ⟨?_, ?_, hlength, ?_⟩
    · rw [heq]
      exact Nat.le_min.mpr ⟨hlimit, hfiles⟩
    · rw [heq]
      exact Nat.min_le_left _ _
    · rw [heq, and_iff_right husual, Nat.lt_min]
      exact and_comm
  · obtain ⟨hpos, hle⟩ := Question.limit_mem_of_not husual
    rw [Config.filesLimit_eq hvalid] at hle
    have hceiling : limit ≤ maxFilesCeiling := Nat.le_trans hle (Nat.min_le_left _ _)
    refine ⟨hpos, Nat.le_trans hle (Nat.min_le_right _ _), hlength, ?_⟩
    exact iff_of_false (Nat.not_lt.mpr hceiling) fun h => husual h.1

/-- Settings under which a caller may ask for more files than the ceiling. -/
def generous : Config := { search := { maxFilesLimit := 200 }, relations := { maxFiles := 101 } }

theorem problem?_generous : generous.problem? = none := by decide

/-- With these settings the usual number of related files exceeds the ceiling. -/
theorem files_within_limit_generous :
    generous.problem? = none
      ∧ maxFilesCeiling < (Question.findRelated "a.ts").limit generous {} :=
  ⟨problem?_generous,
    (files_within_limit (Engine.start generous .empty {} .standard ⟨"/ws"⟩) problem?_generous
      (default : MemoryTree).tree {} (.findRelated "a.ts")).2.2.2.mpr
        ⟨rfl, by decide, by decide⟩⟩

/-- The ceiling does not hold for every question. -/
theorem not_forall_limit_le_ceiling :
    ¬∀ (config : Config) (options : SearchOptions) (question : Question), config.problem? = none →
      question.limit config options ≤ min maxFilesCeiling config.search.maxFilesLimit := by
  intro h
  have hle := h generous {} (.findRelated "a.ts") problem?_generous
  exact absurd hle (by decide)

end SourceRetrieval
