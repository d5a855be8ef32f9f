/-
A set of patterns as the union of its patterns.

* `PatternSet.mem_patterns_ofTexts` — of the patterns of some texts those are in force that
  are not lost among them (`PathPattern.isLostAmong`);
* `PatternSet.isMatch_ofTexts_append` — so a set matches what one of two parts of it
  matches by a pattern that is not lost among the other part; neither order nor
  repetition matters, nor in which directory a path stands;
* `PathPattern.ofText?_eq_none_iff` — blank texts make no pattern.

Design notes: a set that is made of texts depends on its patterns alone, and what is in
force is a question about each pattern and the texts that there are.  Only a glob that
nests too deep gets in the way of the union: it takes with it the globs of its kind.
-/
import Mathlib.Data.List.Basic
import Mathlib.Data.List.TakeWhile
import SourceRetrieval.Proofs.Glob.Descendant
import SourceRetrieval.Proofs.Text.Blank

namespace SourceRetrieval

open Text

theorem Glob.ofText?_ofList (style : Style) (cs : List Char) :
    ofText? style (String.ofList cs) =
      (readFrom style (cs.length + 1) {} none cs).bind fun reading =>
        if reading.braces.isEmpty then some ⟨reading.branch.reverse, style.keepSlashes⟩
        else none := by
  simp only [ofText?, String.toList_ofList]
  rfl

/-! ### Paths below a directory -/

namespace CutPath

theorem mem_tails_append {pieces : List (List UInt8)} {tail : List UInt8} (h : tail ∈ tails pieces)
    (before : List (List UInt8)) : tail ∈ tails (before ++ pieces) := by
  induction before with
  | nil => exact h
  | cons piece before ih => exact List.mem_cons_of_mem _ ih

theorem tailBytes_ofText (path : String) : (ofText path).tailBytes
    = tails ((names path.toList).map fun cs => (String.ofList cs).toUTF8.toList) := by
  rw [← componentBytes_ofText]
  rfl

theorem toList_under (directory path : String) :
    (directory ++ "/" ++ path).toList = directory.toList ++ '/' :: path.toList := by
  rw [String.toList_append, String.toList_append, List.append_assoc]
  rfl

/-- A path keeps its names below a directory, after those of the directory. -/
theorem names_under (directory path : String) :
    names (directory ++ "/" ++ path).toList = names directory.toList ++ names path.toList := by
  rw [toList_under, names_append_cons]

/-- A path stands at the end of what it is below a directory. -/
theorem text_ofText_suffix (directory path : String) :
    (ofText path).text <:+ (ofText (directory ++ "/" ++ path)).text := by
  change path.toList.dropWhile (· == '/') <:+ (directory ++ "/" ++ path).toList.dropWhile (· == '/')
  rw [toList_under, List.dropWhile_append]
  split
  next => exact ⟨[], (List.dropWhile_cons_of_pos (by rfl)).symm⟩
  next =>
    refine (List.dropWhile_suffix _).trans ?_
    exact (List.suffix_cons '/' _).trans (List.suffix_append _ _)

end CutPath

/-- A set matches below any directory what it matches. -/
theorem PatternSet.isMatch_under {set : PatternSet} {path : String} (h : set.isMatch path = true)
    (directory : String) : set.isMatch (directory ++ "/" ++ path) = true := by
  rw [isMatch_iff] at h ⊢
  rcases h with ⟨text, htext, hoccurs⟩ | ⟨c, hc, hname⟩ | ⟨bytes, hbytes, hmatch⟩ |
    ⟨tail, htail, hmatch⟩
  · exact .inl ⟨text, htext, hoccurs.trans (CutPath.text_ofText_suffix directory path).isInfix⟩
  · rw [CutPath.names_under]
    exact .inr (.inl ⟨c, List.mem_append_right _ hc, hname⟩)
  · rw [CutPath.componentBytes_ofText] at hbytes ⊢
    rw [CutPath.names_under, List.map_append]
    exact .inr (.inr (.inl ⟨bytes, List.mem_append_right _ hbytes, hmatch⟩))
  · -- What is left of the path below some directory is left of it here too.
    rw [CutPath.tailBytes_ofText] at htail ⊢
    rw [CutPath.names_under, List.map_append]
    exact .inr (.inr (.inr ⟨tail, CutPath.mem_tails_append htail _, hmatch⟩))

namespace PathPattern

variable {globs : GlobLibrary}

/-! ### Blank texts -/

/-- Whether a text is empty or has blanks alone. -/
def isBlankText (text : String) : Bool := text.toList.all isBlank

/-- Blank texts make no pattern, and others do. -/
theorem ofText?_eq_none_iff {text : String} :
    ofText? globs text = none ↔ isBlankText text = true := by
  rw [isBlankText, ← trim_eq_nil_iff, ofText?]
  cases h : trim text.toList with
  | nil => simp
  | cons c cs =>
    simp only [List.isEmpty_cons, Bool.false_eq_true, if_false, reduceCtorEq, iff_false]
    split
    · nofun
    · split
      · nofun
      · split <;> nofun

/-! ### One pattern -/

/-- Whether a pattern matches a path. -/
def isMatch (globs : GlobLibrary) (cut : CutPath) : PathPattern → Bool
  | .name wanted => cut.components.contains wanted
  | .component glob => cut.componentBytes.any (globs.isMatch glob)
  | .path glob => cut.tailBytes.any (globs.isMatch glob)
  | .anywhere text => occursIn text cut.text

/-- Whether a pattern is a glob that is lost among some texts: the globs of its kind cannot be
built. -/
def isLostAmong (globs : GlobLibrary) (texts : List String) : PathPattern → Bool
  | .component _ => (globs.build? ((readAll globs texts).filterMap (·.component?))).isNone
  | .path _ => (globs.build? ((readAll globs texts).filterMap (·.path?))).isNone
  | _ => false

theorem readAll_append (ps qs : List String) :
    readAll globs (ps ++ qs) = readAll globs ps ++ readAll globs qs :=
  List.filterMap_append

theorem mem_readAll_of_subset {texts texts' : List String} (h : texts ⊆ texts')
    {pattern : PathPattern} (hpattern : pattern ∈ readAll globs texts) :
    pattern ∈ readAll globs texts' := by
  obtain ⟨text, htext, hread⟩ := List.mem_filterMap.mp hpattern
  exact List.mem_filterMap.mpr ⟨text, h htext, hread⟩

end PathPattern

/-- Globs that are built together match what one of them does; if they cannot be built, they match
nothing. -/
theorem GlobLibrary.isMatch_buildOrEmpty_iff {globs : GlobLibrary} {texts : List String}
    {bytes : List UInt8} : (globs.buildOrEmpty texts).isMatch bytes = true ↔
      (globs.build? texts).isNone = false ∧ ∃ text ∈ texts, globs.isMatch text bytes = true := by
  rw [buildOrEmpty]
  cases hbuild : globs.build? texts with
  | none => exact iff_of_false Bool.false_ne_true fun h => Bool.false_ne_true h.1.symm
  | some set =>
    rw [Option.getD_some, globs.isMatch_of_build hbuild, List.any_eq_true]
    exact (and_iff_right rfl).symm

namespace PatternSet

open PathPattern

variable {globs : GlobLibrary}

/-- Globs of one kind match one of some texts if one of them does that is not lost. -/
theorem exists_isMatch_buildOrEmpty_iff {patterns : List PathPattern}
    {kind? : PathPattern → Option String} {cut : List (List UInt8)} :
    (∃ bytes ∈ cut, (globs.buildOrEmpty (patterns.filterMap kind?)).isMatch bytes = true) ↔
      ∃ pattern ∈ patterns, ∃ glob, kind? pattern = some glob
        ∧ (globs.build? (patterns.filterMap kind?)).isNone = false
        ∧ cut.any (globs.isMatch glob) = true := by
  simp only [GlobLibrary.isMatch_buildOrEmpty_iff, List.any_eq_true]
  constructor
  · rintro ⟨bytes, hbytes, hbuilt, glob, hglob, hmatch⟩
    obtain ⟨pattern, hpattern, hkind⟩ := List.mem_filterMap.mp hglob
    exact ⟨pattern, hpattern, glob, hkind, hbuilt, bytes, hbytes, hmatch⟩
  · rintro ⟨pattern, hpattern, glob, hkind, hbuilt, bytes, hbytes, hmatch⟩
    exact ⟨bytes, hbytes, hbuilt, glob, List.mem_filterMap.mpr ⟨pattern, hpattern, hkind⟩, hmatch⟩

/-- A set matches what one of its patterns does that is not lost. -/
theorem isMatch_ofTexts_iff {texts : List String} {path : String} :
    (ofTexts globs texts).isMatch path = true ↔
      ∃ pattern ∈ readAll globs texts, pattern.isLostAmong globs texts = false
        ∧ pattern.isMatch globs (CutPath.ofText path) = true := by
  rw [PatternSet.isMatch_iff]
  simp only [ofTexts, exists_isMatch_buildOrEmpty_iff, List.mem_filterMap]
  constructor
  · rintro (⟨text, ⟨pattern, hpattern, hkind⟩, hoccurs⟩ | ⟨c, hc, pattern, hpattern, hkind⟩ |
      ⟨pattern, hpattern, glob, hkind, hbuilt, hmatch⟩ |
      ⟨pattern, hpattern, glob, hkind, hbuilt, hmatch⟩)
    all_goals
      cases pattern <;> cases hkind
      refine ⟨_, hpattern, ?_, ?_⟩
    · rfl
    · exact occursIn_iff.mpr hoccurs
    · rfl
    · rw [PathPattern.isMatch, CutPath.components_ofText]
      exact List.contains_iff_mem.mpr hc
    · exact hbuilt
    · exact hmatch
    · exact hbuilt
    · exact hmatch
  · rintro ⟨pattern, hpattern, hkept, hmatch⟩
    cases pattern with
    | name wanted =>
      rw [PathPattern.isMatch, CutPath.components_ofText] at hmatch
      exact .inr (.inl ⟨wanted, List.contains_iff_mem.mp hmatch, _, hpattern, rfl⟩)
    | component glob => exact .inr (.inr (.inl ⟨_, hpattern, glob, rfl, hkept, hmatch⟩))
    | path glob => exact .inr (.inr (.inr ⟨_, hpattern, glob, rfl, hkept, hmatch⟩))
    | anywhere text => exact .inl ⟨text, ⟨_, hpattern, rfl⟩, occursIn_iff.mp hmatch⟩

/-- Texts without the blank ones. -/
def written (texts : List String) : List String := texts.filter fun text => !isBlankText text

/-- Blank texts add nothing to the patterns that are read. -/
theorem readAll_of_written {texts texts' : List String} (h : written texts' = written texts) :
    readAll globs texts' = readAll globs texts := by
  have hread : ∀ texts : List String, readAll globs texts = readAll globs (written texts) := by
    intro texts
    rw [readAll, readAll, written, List.filterMap_filter]
    refine List.filterMap_congr fun text _ => ?_
    cases hblank : isBlankText text with
    | true => exact ofText?_eq_none_iff.mpr hblank
    | false => rfl
  rw [hread texts, hread texts', h]

/-- A set of some texts matches what it did with others, if these have the same patterns and the
same ones of them are lost. -/
theorem isMatch_ofTexts_congr {texts texts' : List String}
    (hsame : ∀ text, text ∈ texts ↔ text ∈ texts')
    (hlost : ∀ pattern ∈ readAll globs texts,
      pattern.isLostAmong globs texts = pattern.isLostAmong globs texts') (path : String) :
    (ofTexts globs texts).isMatch path = (ofTexts globs texts').isMatch path := by
  rw [Bool.eq_iff_iff, isMatch_ofTexts_iff, isMatch_ofTexts_iff]
  have hread : ∀ pattern, pattern ∈ readAll globs texts ↔ pattern ∈ readAll globs texts' :=
    fun pattern => ⟨mem_readAll_of_subset fun text => (hsame text).mp,
      mem_readAll_of_subset fun text => (hsame text).mpr⟩
  refine exists_congr fun pattern => ?_
  rw [← hread]
  exact and_congr_right fun hpattern => by rw [hlost pattern hpattern]

/-- Whatever library reads the globs: a set of two lists of texts matches what one of their
patterns does that is not lost among all of them.  So it matches what one of the two sets does,
if the same patterns are lost among all the texts as among those of each list; neither
their order nor how often each is given matters, if the same patterns are lost then.
What a set matches it matches below any directory. -/
theorem isMatch_ofTexts_append (globs : GlobLibrary) (ps qs : List String) (path : String) :
    ((ofTexts globs (ps ++ qs)).isMatch path = true ↔
        ∃ pattern, (pattern ∈ readAll globs ps ∨ pattern ∈ readAll globs qs)
          ∧ pattern.isLostAmong globs (ps ++ qs) = false
          ∧ pattern.isMatch globs (CutPath.ofText path) = true)
      ∧ ((∀ pattern ∈ readAll globs ps,
            pattern.isLostAmong globs (ps ++ qs) = pattern.isLostAmong globs ps) →
        (∀ pattern ∈ readAll globs qs,
            pattern.isLostAmong globs (ps ++ qs) = pattern.isLostAmong globs qs) →
        ((ofTexts globs (ps ++ qs)).isMatch path = true ↔
          (ofTexts globs ps).isMatch path = true ∨ (ofTexts globs qs).isMatch path = true))
      ∧ (∀ texts, (∀ text, text ∈ texts ↔ text ∈ ps ++ qs) →
        (∀ pattern ∈ readAll globs texts,
          pattern.isLostAmong globs texts = pattern.isLostAmong globs (ps ++ qs)) →
        (ofTexts globs texts).isMatch path = (ofTexts globs (ps ++ qs)).isMatch path)
      ∧ ∀ directory, (ofTexts globs ps).isMatch path = true →
        (ofTexts globs ps).isMatch (directory ++ "/" ++ path) = true := by
  have hunion : (ofTexts globs (ps ++ qs)).isMatch path = true ↔
      ∃ pattern, (pattern ∈ readAll globs ps ∨ pattern ∈ readAll globs qs)
        ∧ pattern.isLostAmong globs (ps ++ qs) = false
        ∧ pattern.isMatch globs (CutPath.ofText path) = true := by
    simp only [isMatch_ofTexts_iff, readAll_append, List.mem_append]
  refine ⟨hunion, fun hps hqs => ?_, fun texts hsame hlost => ?_, fun directory h => ?_⟩
  · rw [hunion, isMatch_ofTexts_iff, isMatch_ofTexts_iff]
    simp only [or_and_right, exists_or]
    refine or_congr ?_ ?_ <;> refine exists_congr fun pattern => and_congr_right fun hmem => ?_
    · rw [hps pattern hmem]
    · rw [hqs pattern hmem]
  · exact isMatch_ofTexts_congr hsame hlost path
  · exact isMatch_under h directory

/-- Two globs that are not too deep match together what they match apart. -/
theorem isMatch_ofTexts_scripts :
    (ofTexts .standard (["*.ts"] ++ ["*.js", "src/**"])).isMatch "lib/a.js" = true := by
  have hps : ∀ pattern ∈ readAll .standard ["*.ts"],
      pattern.isLostAmong .standard (["*.ts"] ++ ["*.js", "src/**"])
        = pattern.isLostAmong .standard ["*.ts"] := by
    decide +kernel
  have hqs : ∀ pattern ∈ readAll .standard ["*.js", "src/**"],
      pattern.isLostAmong .standard (["*.ts"] ++ ["*.js", "src/**"])
        = pattern.isLostAmong .standard ["*.js", "src/**"] := by
    decide +kernel
  refine ((isMatch_ofTexts_append .standard _ _ "lib/a.js").2.1 hps hqs).mpr (.inr ?_)
  decide +kernel

/-! ### A glob that nests too deep -/

/-- A letter in braces in braces. -/
def bracedLetter (depth : Nat) : List Char :=
  List.replicate depth '\x7b' ++ 'a' :: List.replicate depth '\x7d'

theorem mem_bracedLetter {depth : Nat} {c : Char} (h : c ∈ bracedLetter depth) :
    c = '\x7b' ∨ c = 'a' ∨ c = '\x7d' := by
  rw [bracedLetter, List.mem_append, List.mem_cons] at h
  exact h.imp List.eq_of_mem_replicate (Or.imp_right List.eq_of_mem_replicate)

/-- A glob that nests deeper than may be. -/
def deepGlob : String := String.ofList (bracedLetter 260)

theorem exists_isDeep_deepGlob :
    ∃ glob, Glob.ofText? GlobLibrary.style deepGlob = some glob ∧ glob.isDeep = true := by
  refine (Option.any_eq_true _ _).mp ?_
  -- The characters are read as they are, without making them a text first.
  rw [deepGlob, Glob.ofText?_ofList]
  decide +kernel

theorem ofText?_deepGlob : ofText? .standard deepGlob = some (.component deepGlob) := by
  have hcs : deepGlob.toList = bracedLetter 260 := String.toList_ofList
  have htrim : trim (bracedLetter 260) = bracedLetter 260 := by
    refine trim_eq_self fun c hc => ?_
    obtain rfl | rfl | rfl := mem_bracedLetter hc <;> decide
  have hglob : GlobLibrary.standard.isGlob deepGlob = true := by
    obtain ⟨glob, hread, -⟩ := exists_isDeep_deepGlob
    rw [GlobLibrary.isGlob_standard, hread]
    rfl
  have hspecial : (bracedLetter 260).any isSpecial = true := by decide
  have hslash : (bracedLetter 260).contains '/' = false := by
    rw [Bool.eq_false_iff, ne_eq, List.contains_iff_mem]
    exact fun hmem => absurd (mem_bracedLetter hmem) (by decide)
  have hne : (bracedLetter 260).isEmpty = false := by decide
  rw [ofText?, hcs, htrim, ← deepGlob]
  simp only [hne, hspecial, hslash, hglob]
  rfl

/-- Beside a glob without a slash that nests too deep no glob without a slash matches. -/
theorem isMatch_beside_deepGlob (path : String) :
    (ofTexts .standard [deepGlob, "*.ts"]).isMatch path = false := by
  have hread : readAll .standard [deepGlob, "*.ts"] = [.component deepGlob, .component "*.ts"] := by
    have hts : ofText? .standard "*.ts" = some (.component "*.ts") := by decide
    rw [readAll, List.filterMap_cons, List.filterMap_cons, ofText?_deepGlob, hts]
    rfl
  have hbuild : GlobLibrary.standard.build? [deepGlob, "*.ts"] = none := by
    obtain ⟨glob, hglob, hdeep⟩ := exists_isDeep_deepGlob
    exact GlobLibrary.build?_standard_of_isDeep List.mem_cons_self hglob hdeep
  rw [Bool.eq_false_iff]
  intro h
  obtain ⟨pattern, hpattern, hkept, -⟩ := isMatch_ofTexts_iff.mp h
  rw [hread] at hpattern
  have hlost : pattern.isLostAmong .standard [deepGlob, "*.ts"]
      = (GlobLibrary.standard.build? [deepGlob, "*.ts"]).isNone := by
    rcases List.mem_cons.mp hpattern with rfl | hpattern
    · rw [isLostAmong, hread]
      rfl
    · rw [List.mem_singleton.mp hpattern, isLostAmong, hread]
      rfl
  rw [hlost, hbuild] at hkept
  exact Bool.false_ne_true hkept.symm

/-- A glob that nests too deep takes the globs of its kind with it, which match alone. -/
theorem not_forall_isMatch_append :
    ¬∀ (ps qs : List String) (path : String),
      (ofTexts .standard (ps ++ qs)).isMatch path = true ↔
        (ofTexts .standard ps).isMatch path = true
          ∨ (ofTexts .standard qs).isMatch path = true := by
  intro h
  have hmatch : (ofTexts .standard ["*.ts"]).isMatch "a.ts" = true := by
    decide +kernel
  have hboth := (h [deepGlob] ["*.ts"] "a.ts").mpr (.inr hmatch)
  rw [List.singleton_append, isMatch_beside_deepGlob] at hboth
  exact Bool.false_ne_true hboth

end PatternSet

end SourceRetrieval
