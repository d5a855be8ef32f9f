/-
What an importer shows of its import.

* `ImportsAt` — an import rule has read a specifier at an offset, and it names the file asked about;
* `exists_importsAt` — the specifier that an importer is found by has been read so;
* `importRanges_cases` — what is highlighted is the first place where the text of that specifier
  stands;
* `importer_highlights` — so it is the place of an import just if the specifier stands there as it
  is written and nowhere before;
* `not_forall_highlights_import` — which is not so for every importer under the built-in rules.

Design notes: an outline keeps specifiers without their offsets, so the place of an import is
looked for again by its text.  A comment may have that text too.
-/
import SourceRetrieval.Proofs.Engine.Limits
import SourceRetrieval.Proofs.Engine.Related
import SourceRetrieval.Proofs.Outline.Exports
import SourceRetrieval.Proofs.Outline.Quotes
import SourceRetrieval.Proofs.Text.Occurrences

namespace SourceRetrieval

open Text Outline SourceRetrieval.Path

/-! ### Specifiers -/

namespace Outline

theorem toList_ne_nil_of_quoted {text : List Char} {found : List String} (h : Quoted text found) :
    ∀ value ∈ found, value.toList ≠ [] := by
  induction h with
  | plain | unclosed => nofun
  | @closed _ inside _ _ _ _ _ _ _ ih =>
    split
    · exact ih
    next hinside =>
      refine List.forall_mem_cons.mpr ⟨?_, ih⟩
      rwa [String.toList_ofList]

/-- No specifier is empty. -/
theorem toList_ne_nil_of_mem_specifiers {mode : SpecifierMode} {cs : List Char} {value : String}
    (h : value ∈ specifiers mode cs) : value.toList ≠ [] := by
  cases mode with
  | single =>
    rw [specifiers] at h
    split at h
    · cases h
    next hempty =>
      rw [List.mem_singleton.mp h, String.toList_ofList]
      exact fun hnil => hempty (List.isEmpty_iff.mpr hnil)
  | commaList =>
    obtain ⟨name, hname, rfl⟩ := List.mem_map.mp h
    rw [String.toList_ofList]
    rintro rfl
    exact absurd (List.mem_filter.mp hname).2 (by decide)
  | quotedList => exact toList_ne_nil_of_quoted (quoted_quotedStrings cs) value h
  | nameList =>
    obtain ⟨entry, -, hentry⟩ := List.mem_filterMap.mp h
    obtain ⟨word, hword, rfl⟩ := Option.map_eq_some_iff.mp hentry
    have hkept := (List.mem_filter.mp (List.mem_of_head? hword)).2
    rw [String.toList_ofList]
    rintro rfl
    exact absurd hkept (by decide)

theorem toList_ne_nil_of_mem_importEntries {source : Source} {entry : Nat × String}
    (h : entry ∈ importEntries source) : entry.2.toList ≠ [] := by
  obtain ⟨rule, -, hrule⟩ := List.mem_flatMap.mp h
  cases rule with
  | imports pattern mode =>
    obtain ⟨m, -, hm⟩ := List.mem_flatMap.mp hrule
    split at hm
    · obtain ⟨value, hvalue, rfl⟩ := List.mem_map.mp hm
      exact toList_ne_nil_of_mem_specifiers hvalue
    · cases hm
  | functions | classes | methodBlocks | interfaces | types | exports => cases hrule

end Outline

/-! ### Places of imports -/

namespace Engine

variable {engine : Engine} {memory : MemoryTree} {tree : FileTree} {file : AnalyzedFile}
  {target : Path}

/-- An import rule of the language of a file has read a specifier at an offset into its content,
and the specifier names the target. -/
structure ImportsAt (engine : Engine) (tree : FileTree) (file : AnalyzedFile) (target : Path)
    (spec : String) (offset : Nat) : Prop where
  read : ∃ set, file.language.bind engine.rules.get? = some set
    ∧ (offset, spec) ∈ importEntries (Source.ofText set file.content)
  names : ∃ path ∈ (engine.importGraph tree).resolve file.path spec file.language,
    path.components = target.components

theorem outline_of_analysisOf {path : Path} {bytes : ByteArray}
    (h : engine.analysisOf path bytes = .ok file) :
    file.outline = engine.rules.outline file.language file.content := by
  obtain ⟨content, rfl⟩ := exists_make_of_analysisOf h
  rfl

/-- The specifier of the edge to a file has been read in the content. -/
theorem exists_importsAt {via : String}
    (houtline : file.outline = engine.rules.outline file.language file.content)
    (h : (engine.importGraph tree).importOf? file target = some via) :
    ∃ offset, engine.ImportsAt tree file target via offset := by
  rw [ImportGraph.importOf?] at h
  split at h
  · cases h
  · have hmem := List.mem_of_find?_eq_some h
    have hnamed := List.find?_some h
    obtain ⟨path, hpath, hsame⟩ := List.any_eq_true.mp hnamed
    rw [houtline, RuleRegistry.outline] at hmem
    cases hset : file.language.bind engine.rules.get? with
    | none =>
      rw [hset] at hmem
      cases hmem
    | some set =>
      rw [hset] at hmem
      dsimp only at hmem
      rw [imports_ofText, mem_orderedUnique] at hmem
      obtain ⟨⟨offset, _⟩, hentry, rfl⟩ := List.mem_map.mp hmem
      exact ⟨offset, ⟨set, hset, hentry⟩, path, hpath, same_iff.mp hsame⟩

end Engine

/-! ### What is highlighted -/

namespace RelatedFile

variable {related : RelatedFile}

/-- What an importer highlights is the first place where the specifier stands, with its line. -/
theorem importRanges_cases (hdirection : related.direction = .importedBy)
    (hvia : related.via.toList ≠ []) :
    related.importRanges = []
        ∧ (∀ offset, ¬StandsAt related.via.toList related.file.content.toList offset)
      ∨ ∃ first, StandsFirstAt related.via.toList related.file.content.toList first
        ∧ related.importRanges = [⟨first, first + related.via.utf8ByteSize,
          (LineIndex.ofText related.file.content).lineOf first⟩] := by
  have hempty : related.via.isEmpty = false := by
    rw [← Bool.not_eq_true, String.isEmpty_iff, ← String.toList_eq_nil_iff]
    exact hvia
  have hspec := firstOccurrence?_spec related.via.toList 0 related.file.content.toList
  simp only [importRanges, hdirection, hempty, Bool.false_eq_true, if_false]
  cases hfound : firstOccurrence? related.via.toList 0 related.file.content.toList with
  | none =>
    rw [hfound] at hspec
    exact .inl ⟨rfl, hspec⟩
  | some first => exact .inr ⟨first, firstOccurrence?_eq_some_iff.mp hfound, rfl⟩

end RelatedFile

namespace Engine

variable {engine : Engine} {memory : MemoryTree}

/-- If an answer shows a file, the one asked about can be loaded. -/
theorem exists_loadPath_of_mem_findRelated {tree : FileTree} {path : String}
    {options : SearchOptions} {file : AnalyzedFile}
    (h : file ∈ (engine.findRelated tree path options).1.files) :
    ∃ origin cached, (engine.loadPath tree (engine.root.resolveIn path)
      (options.resolve engine.config .keyword).maxFileSize { cache := engine.cache }).1
        = .ok (origin, cached) := by
  cases hload : (engine.loadPath tree (engine.root.resolveIn path)
    (options.resolve engine.config .keyword).maxFileSize { cache := engine.cache }).1 with
  | error failure =>
    rw [findRelated_of_error hload] at h
    cases h
  | ok loaded => exact ⟨loaded.1, loaded.2, rfl⟩

section Answers

variable {path : String} {options : SearchOptions} {origin : AnalyzedFile} {cached : Bool}
  (hroot : engine.root.IsPlain)
  (htrusts : engine.Trusts memory engine.cache)
  (hload : (engine.loadPath memory.tree (engine.root.resolveIn path)
    (options.resolve engine.config .keyword).maxFileSize { cache := engine.cache }).1
      = .ok (origin, cached))

include hroot htrusts hload

/-- A file of an answer with the score of importers is one. -/
theorem exists_importer_of_score {file : AnalyzedFile}
    (h : file ∈ (engine.findRelated memory.tree path options).1.files)
    (hscore : totalKey file.relevance = totalKey 80) :
    let resolved := options.resolve engine.config .keyword
    ∃ related ∈ engine.importers memory (engine.walker resolved) origin resolved.maxHops,
      file = related.toFile resolved.contextWindow := by
  intro resolved
  obtain ⟨related, hrelated, rfl⟩ := List.mem_map.mp
    ((perm_findRelated hroot htrusts hload).mem_iff.mp h)
  refine ⟨related, (mem_discovered.mp (List.mem_of_mem_take hrelated)).resolve_left
    fun himported => ?_, rfl⟩
  -- Files that imports lead to have other scores.
  have hbreadth := isBreadthFirst_imported engine memory (engine.walker resolved) origin
    resolved.maxHops
  have hdirection := RelatedFile.totalKey_score_eq_eighty_iff.mp hscore
  rw [hbreadth.direction _ himported] at hdirection
  cases hdirection

end Answers

/-- After any run, each importer in an answer is found by a specifier that an import rule has read
in its content.  It highlights the first place where the text of that specifier stands, with its
line, and nothing if it stands nowhere.  So it highlights the place of that import just if the
specifier stands there as it is written and nowhere before. -/
theorem importer_highlights (config : Config) (rules : RuleRegistry) (weights : Weights)
    (globs : GlobLibrary) (root : Path) (memory : MemoryTree) (actions : List Action)
    (path : String) (options : SearchOptions) :
    let workspace := Workspace.run ⟨memory, start config rules weights globs root⟩ actions
    let engine := workspace.engine
    let tree := workspace.memory.tree
    let graph := engine.importGraph tree
    let target := engine.root.resolveIn path
    let answer := (engine.findRelated tree path options).1
    ∀ file ∈ answer.files, totalKey file.relevance = totalKey 80 →
      ∃ via, graph.importOf? file target = some via
        ∧ (∃ offset, engine.ImportsAt tree file target via offset)
        ∧ (file.ranges = []
            ∧ (∀ offset, ¬StandsAt via.toList file.content.toList offset)
          ∨ ∃ first, StandsFirstAt via.toList file.content.toList first
            ∧ file.ranges = [⟨first, first + via.utf8ByteSize,
              (LineIndex.ofText file.content).lineOf first⟩])
        ∧ ((∃ range ∈ file.ranges, engine.ImportsAt tree file target via range.start)
          ↔ ∃ offset, engine.ImportsAt tree file target via offset
            ∧ StandsFirstAt via.toList file.content.toList offset) := by
  intro workspace engine tree graph target answer file hfile hscore
  let resolved := options.resolve engine.config .keyword
  obtain ⟨hsound, -⟩ := Workspace.continues_run
    (Workspace.isSound_start config rules weights globs root memory) actions
  obtain ⟨origin, cached, hload⟩ := exists_loadPath_of_mem_findRelated hfile
  have horigin : engine.IsAnalysisAt workspace.memory target origin :=
    isAnalysisAt_of_loadPath hsound.trusts hload
  obtain ⟨related, hrelated, rfl⟩ :=
    exists_importer_of_score hsound.root_plain hsound.trusts hload hfile hscore
  obtain ⟨⟨c, hc, hloaded⟩, hvia, -, hdirection, -⟩ := mem_importers_iff.mp hrelated
  rw [horigin.path_eq] at hvia
  obtain ⟨stored, -, hanalysis⟩ := analysisOf_of_loaded?
    (isLoadable_of_mem_walk (show (engine.walker resolved).root.IsPlain from hsound.root_plain) hc)
    hloaded
  obtain ⟨offset, hplace⟩ := exists_importsAt (outline_of_analysisOf hanalysis) hvia
  obtain ⟨set, -, hentry⟩ := hplace.read
  have hranges := RelatedFile.importRanges_cases hdirection
    (toList_ne_nil_of_mem_importEntries hentry)
  have hfile : (related.toFile resolved.contextWindow).ranges = related.importRanges := rfl
  have hshown : ∀ n, engine.ImportsAt tree (related.toFile resolved.contextWindow) target
      related.via n ↔ engine.ImportsAt tree related.file target related.via n :=
    fun n => ⟨fun h => ⟨h.read, h.names⟩, fun h => ⟨h.read, h.names⟩⟩
  refine ⟨related.via, hvia, ⟨offset, (hshown offset).mpr hplace⟩, hranges, ?_, ?_⟩
  · rintro ⟨range, hrange, himport⟩
    obtain ⟨hnone, -⟩ | ⟨first, hfirst, hone⟩ := hranges
    · rw [hfile, hnone] at hrange
      cases hrange
    · rw [hfile, hone] at hrange
      obtain rfl := List.mem_singleton.mp hrange
      exact ⟨first, himport, hfirst⟩
  · rintro ⟨place, himport, hplace⟩
    obtain ⟨-, hnowhere⟩ | ⟨first, hfirst, hone⟩ := hranges
    · exact absurd hplace.1 (hnowhere place)
    · obtain rfl := hfirst.unique hplace
      rw [hfile, hone]
      exact ⟨_, List.mem_singleton_self _, himport⟩

/-- Where the import rules have read specifiers in a file. -/
def importOffsets (engine : Engine) (file : AnalyzedFile) : List Nat :=
  match file.language.bind engine.rules.get? with
  | some set => (importEntries (Source.ofText set file.content)).map (·.1)
  | none => []

theorem ImportsAt.mem_importOffsets {tree : FileTree} {file : AnalyzedFile} {target : Path}
    {spec : String} {offset : Nat}
    (h : engine.ImportsAt tree file target spec offset) : offset ∈ engine.importOffsets file := by
  obtain ⟨set, hset, hentry⟩ := h.read
  rw [importOffsets, hset]
  exact List.mem_map.mpr ⟨_, hentry, rfl⟩

/-- An empty file and two that import it, one of which mentions it before. -/
def importing : MemoryTree :=
  (((default : MemoryTree).add ⟨"/w/a.py"⟩ "".toUTF8).add ⟨"/w/b.py"⟩
    "\nimport a".toUTF8).add ⟨"/w/c.py"⟩ "# a\nimport a".toUTF8

/-- To ask for three files. -/
def askThree : SearchOptions := { askTwo with maxFiles := some 3 }

/-- What a file of the tree highlights as an importer of the first one, with its score and where its
imports stand. -/
def highlighted (path : Path) : Option (List MatchRange × Int × List Nat) := do
  let options := askThree.resolve openEngine.config .keyword
  let candidate ← (openEngine.walker options).filter? importing.tree path
  let related ← openEngine.importer? importing.tree options.maxFileSize
    (openEngine.root.resolveIn "a.py") candidate
  return (related.importRanges, totalKey related.score, openEngine.importOffsets related.file)

theorem highlighted_eq :
    highlighted ⟨"/w/b.py"⟩ = some ([⟨8, 9, 2⟩], totalKey 80, [8])
      ∧ highlighted ⟨"/w/c.py"⟩ = some ([⟨2, 3, 1⟩], totalKey 80, [11]) := by
  decide +kernel

/-- The first file of the tree can be loaded, and imports lead from it to no other. -/
theorem exists_loadPath_importing :
    ∃ origin cached, (openEngine.loadPath importing.tree (openEngine.root.resolveIn "a.py")
        (askThree.resolve openEngine.config .keyword).maxFileSize
          { cache := openEngine.cache }).1 = .ok (origin, cached)
      ∧ (openEngine.imported importing
        (openEngine.walker (askThree.resolve openEngine.config .keyword)) origin
        (askThree.resolve openEngine.config .keyword).maxHops).length = 0 :=
  exists_origin_of_map (by decide +kernel)

/-- The answer about the first file shows what another one highlights. -/
theorem exists_highlighted (path : Path) (name : String) {ranges : List MatchRange} {key : Int}
    {offsets : List Nat} (hplain : path.IsPlain)
    (hpath : path.components = openEngine.root.components ++ [.normal name])
    (hopen : (openEngine.walker (askThree.resolve openEngine.config .keyword)).Open
      importing.tree openEngine.root [] [.normal name])
    (hdeepest : ∀ other ∈ importing.files.map (·.path),
      other.components.length ≤ path.components.length)
    (hshown : highlighted path = some (ranges, key, offsets)) :
    ∃ file ∈ (openEngine.findRelated importing.tree "a.py" askThree).1.files,
      file.ranges = ranges ∧ totalKey file.relevance = key
        ∧ openEngine.importOffsets file = offsets := by
  obtain ⟨hroot, htrusts⟩ : Workspace.IsSound ⟨importing, openEngine⟩ :=
    Workspace.isSound_start openConfig .builtin {} .standard ⟨"/w"⟩ importing
  obtain ⟨origin, cached, hload, hnone⟩ := exists_loadPath_importing
  obtain ⟨candidate, hfilter, hshown⟩ := Option.bind_eq_some_iff.mp hshown
  obtain ⟨related, himporter, hshown⟩ := Option.bind_eq_some_iff.mp hshown
  obtain ⟨hloaded, hvia, hhops, hdirection⟩ := importer?_eq_some_iff.mp himporter
  rw [← (isAnalysisAt_of_loadPath htrusts hload).path_eq] at hvia
  have hwalked : candidate ∈ (openEngine.walker
      (askThree.resolve openEngine.config .keyword)).walk importing.tree :=
    mem_walk_of_filter? _ hroot hplain hpath hopen hdeepest hfilter
  have hdiscovered : related ∈ openEngine.importers importing
      (openEngine.walker (askThree.resolve openEngine.config .keyword)) origin
      (askThree.resolve openEngine.config .keyword).maxHops := by
    refine mem_importers_iff.mpr ⟨⟨candidate, hwalked, hloaded⟩, hvia, hhops, hdirection, ?_⟩
    rw [List.eq_nil_of_length_eq_zero hnone]
    nofun
  refine ⟨_, toFile_mem_findRelated hroot htrusts hload (by decide)
    (mem_discovered.mpr (.inr hdiscovered)), ?_⟩
  -- Nothing but its score, what it highlights and its excerpts is added to a file that is shown.
  cases hshown
  exact ⟨rfl, rfl, rfl⟩

/-- The importer that does not mention the file before highlights its import. -/
theorem importer_highlights_import :
    ∃ file ∈ (openEngine.findRelated importing.tree "a.py" askThree).1.files,
      totalKey file.relevance = totalKey 80 ∧ file.ranges = [⟨8, 9, 2⟩]
        ∧ ∃ via, openEngine.ImportsAt importing.tree file (openEngine.root.resolveIn "a.py")
          via 8 := by
  obtain ⟨file, hfile, hranges, hkey, hoffsets⟩ := exists_highlighted ⟨"/w/b.py"⟩
    "b.py" (isPlain_normalize ⟨"/w/b.py"⟩) (by decide) (by decide)
    (by decide) highlighted_eq.1
  have hengine : start openConfig .builtin {} .standard ⟨"/w"⟩ = openEngine := rfl
  have h := importer_highlights openConfig .builtin {} .standard ⟨"/w"⟩ importing [] "a.py" askThree
  simp only [Workspace.run, List.foldl_nil, hengine] at h
  obtain ⟨via, -, ⟨offset, himport⟩, -⟩ := h file hfile hkey
  obtain rfl : offset = 8 := by
    have hoffset := himport.mem_importOffsets
    rwa [hoffsets, List.mem_singleton] at hoffset
  exact ⟨file, hfile, hkey, hranges, via, himport⟩

/-- Under the built-in rules an importer may highlight something else than an import. -/
theorem not_forall_highlights_import :
    ¬∀ (config : Config) (rules : RuleRegistry) (weights : Weights) (globs : GlobLibrary)
      (root : Path) (memory : MemoryTree) (path : String) (options : SearchOptions),
      RuleRegistry.builtin? = some rules →
      let engine := start config rules weights globs root
      let answer := (engine.findRelated memory.tree path options).1
      ∀ file ∈ answer.files, totalKey file.relevance = totalKey 80 →
        file.ranges.length ≤ 1
          ∧ ∀ range ∈ file.ranges, ∃ spec,
            engine.ImportsAt memory.tree file (engine.root.resolveIn path) spec range.start
              ∧ range.line = (LineIndex.ofText file.content).lineOf range.start := by
  intro h
  obtain ⟨file, hfile, hranges, hkey, hoffsets⟩ := exists_highlighted ⟨"/w/c.py"⟩
    "c.py" (isPlain_normalize ⟨"/w/c.py"⟩) (by decide) (by decide)
    (by decide) highlighted_eq.2
  obtain ⟨-, hall⟩ := h openConfig .builtin {} .standard ⟨"/w"⟩ importing "a.py" askThree
    RuleRegistry.builtin?_eq file hfile hkey
  obtain ⟨spec, himport, -⟩ := hall ⟨2, 3, 1⟩ (hranges ▸ List.mem_singleton_self _)
  have hoffset := himport.mem_importOffsets
  rw [show start openConfig .builtin {} .standard ⟨"/w"⟩ = openEngine from rfl,
    hoffsets] at hoffset
  exact absurd hoffset (by decide)

end Engine

end SourceRetrieval
