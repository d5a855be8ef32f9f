/-
Code blocks read back from the markdown of a file.

* `textUntilFence_eq_iff` — what is read up to the first fence of a text is all of the text if and
  only if no line of it is taken for a fence;
* `lineTexts_append_blocks` — the lines of a section are those of its heading and those of each
  excerpt between two fences;
* `codeTexts_blocks_iff` — the texts between the fences are those of the excerpts if and only if no
  line of an excerpt is taken for a fence;
* `excerpt_read_back_iff` — so an excerpt is read back from a section up to its first line that is
  taken for a fence;
* `not_forall_excerpt_read_back` — and not in full if it has one.

Design notes: a reader does not know where an excerpt ends but by the fence after it, so whatever
begins with three backticks is a fence to it (`isFence`), with a tag or without.
-/
import Mathlib.Data.List.TakeWhile
import Mathlib.Tactic.Set
import SourceRetrieval.Render.Markdown
import SourceRetrieval.Proofs.Text.Lines

namespace SourceRetrieval.Render

open Text

/-! ### Reading -/

/-- What a fence begins with. -/
def fence : List Char := "```".toList

/-- Whether a line is taken for a fence. -/
def isFence (line : List Char) : Bool := fence.isPrefixOf line

/-- Whether no line of a text is taken for a fence. -/
def IsFenceFree (cs : List Char) : Prop := ∀ line ∈ lineTexts cs, isFence line = false

/-- The lines of a text up to the first fence. -/
def textUntilFence (cs : List Char) : List Char :=
  joinLines ((lineTexts cs).takeWhile (!isFence ·))

/-- The second entry of a list, the fourth and so on. -/
def everySecond {α : Type} : List α → List α
  | _ :: x :: xs => x :: everySecond xs
  | _ => []

/-- The texts of code blocks: each fence opens one or closes the one that is open. -/
def codeTexts (cs : List Char) : List (List Char) :=
  (everySecond ((lineTexts cs).splitOnP isFence)).map joinLines

section Lines

variable {cs line : List Char}

theorem isFence_append (tag : List Char) : isFence (fence ++ tag) = true :=
  List.isPrefixOf_iff_prefix.mpr (List.prefix_append _ _)

theorem isFence_fence : isFence fence = true := by decide

theorem newline_not_mem_fence : '\n' ∉ fence := by decide

/-- What is read up to the first fence of a text is all of it if and only if it has none. -/
theorem textUntilFence_eq_iff : textUntilFence cs = cs ↔ IsFenceFree cs := by
  constructor
  · intro h line hline
    have hkept : (lineTexts cs).takeWhile (!isFence ·) = lineTexts cs := by
      by_cases hnil : (lineTexts cs).takeWhile (!isFence ·) = []
      · -- Only the empty text has nothing to read, and its one line is no fence.
        have hempty : cs = [] := by
          rw [textUntilFence, hnil] at h
          exact h.symm
        rw [hempty]
        decide
      · have hlines : ∀ line ∈ (lineTexts cs).takeWhile (!isFence ·), '\n' ∉ line :=
          fun line hmem => newline_not_mem_of_mem_lineTexts
            ((List.takeWhile_sublist _).subset hmem)
        rw [← lineTexts_joinLines hnil hlines]
        exact congrArg lineTexts h
    have hall := List.takeWhile_eq_self_iff.mp hkept line hline
    rwa [Bool.not_eq_true'] at hall
  · intro h
    have hkept : (lineTexts cs).takeWhile (!isFence ·) = lineTexts cs := by
      refine List.takeWhile_eq_self_iff.mpr fun line hline => ?_
      rw [h line hline]
      decide
    rw [textUntilFence, hkept, joinLines_lineTexts]

/-- A fence ends what is read. -/
theorem takeWhile_append_fence (lines rest : List (List Char)) (h : isFence line = true) :
    (lines ++ line :: rest).takeWhile (!isFence ·) = lines.takeWhile (!isFence ·) := by
  induction lines with
  | nil =>
    refine List.takeWhile_cons_of_neg ?_
    rw [h]
    decide
  | cons first lines ih =>
    rw [List.cons_append, List.takeWhile_cons, List.takeWhile_cons, ih]

/-- The first piece of a list that is cut at the fences is what comes before the first one. -/
theorem exists_splitOnP_eq (lines : List (List Char)) :
    ∃ pieces, lines.splitOnP isFence = lines.takeWhile (!isFence ·) :: pieces := by
  induction lines with
  | nil => exact ⟨[], rfl⟩
  | cons line lines ih =>
    obtain ⟨pieces, hpieces⟩ := ih
    rw [List.splitOnP_cons_eq_if_modifyHead, List.takeWhile_cons]
    cases isFence line with
    | true => exact ⟨lines.splitOnP isFence, rfl⟩
    | false =>
      rw [hpieces]
      exact ⟨pieces, rfl⟩

end Lines

/-! ### Blocks -/

/-- The line above a block. -/
def excerptLabel (excerpt : Excerpt) : String :=
  "Lines " ++ toString excerpt.firstLine ++ "-" ++ toString excerpt.lastLine ++ ":"

/-- What stands before the text of an excerpt. -/
def excerptHead (tag : String) (excerpt : Excerpt) : String :=
  "\n" ++ excerptLabel excerpt ++ "\n```" ++ tag ++ "\n"

/-- The lines of a block, and the empty one behind it. -/
def blockLines (tag : String) (excerpt : Excerpt) : List (List Char) :=
  (excerptLabel excerpt).toList :: (fence ++ tag.toList)
    :: (lineTexts excerpt.text.toList ++ [fence, []])

section Blocks

variable {tag : String}

theorem excerptBlock_eq (tag : String) (excerpt : Excerpt) :
    excerptBlock tag excerpt = excerptHead tag excerpt ++ (excerpt.text ++ "\n```\n") := by
  rw [excerptBlock, excerptHead, excerptLabel, codeBlock, ← String.toList_inj]
  simp

/-- A number is written in digits. -/
theorem isDigit_of_mem_toString {n : Nat} {c : Char} (h : c ∈ (toString n).toList) :
    c.isDigit = true := by
  rw [Nat.toString_eq_repr, Nat.toList_repr] at h
  exact Nat.isDigit_of_mem_toDigits (by decide) (by decide) h

theorem newline_not_mem_excerptLabel (excerpt : Excerpt) :
    '\n' ∉ (excerptLabel excerpt).toList := by
  have hnumber : ∀ n : Nat, '\n' ∉ (toString n).toList :=
    fun n hmem => absurd (isDigit_of_mem_toString hmem) (by decide)
  rw [excerptLabel]
  simp only [String.toList_append, List.mem_append, hnumber, or_false]
  decide

theorem isFence_excerptLabel (excerpt : Excerpt) :
    isFence (excerptLabel excerpt).toList = false := by
  rw [excerptLabel]
  simp only [String.toList_append]
  rfl

theorem newline_not_mem_fenceTag (language : Option Language) :
    '\n' ∉ (fenceTag language).toList := by
  have hname : ∀ language : Language, '\n' ∉ language.name.toLower.toList := by
    intro language
    show '\n' ∉ (language.name.map Char.toLower).toList
    rw [String.toList_map]
    cases language <;> decide
  rw [fenceTag.eq_def]
  split
  · decide
  · decide
  · decide
  · decide
  · exact hname _

theorem lineTexts_append_excerptBlock (htag : '\n' ∉ tag.toList) (cs : List Char)
    (excerpt : Excerpt) :
    lineTexts (cs ++ (excerptBlock tag excerpt).toList)
      = lineTexts cs ++ blockLines tag excerpt := by
  have hblock : cs ++ (excerptBlock tag excerpt).toList
      = cs ++ '\n' :: ((excerptLabel excerpt).toList ++ '\n' :: ((fence ++ tag.toList)
        ++ '\n' :: (excerpt.text.toList ++ '\n' :: (fence ++ '\n' :: [])))) := by
    rw [excerptBlock_eq, excerptHead]
    simp [fence]
  have hopen : '\n' ∉ fence ++ tag.toList := by
    rw [List.mem_append]
    exact not_or.mpr ⟨newline_not_mem_fence, htag⟩
  rw [hblock]
  simp only [lineTexts_append_newline, lineTexts_of_not_mem hopen,
    lineTexts_of_not_mem (newline_not_mem_excerptLabel excerpt),
    lineTexts_of_not_mem newline_not_mem_fence]
  rfl

/-- The lines of blocks are added to those of what stands before. -/
theorem lineTexts_append_blocks (htag : '\n' ∉ tag.toList) (excerpts : List Excerpt)
    (cs : List Char) :
    lineTexts (cs ++ (String.join (excerpts.map (excerptBlock tag))).toList)
      = lineTexts cs ++ excerpts.flatMap (blockLines tag) := by
  induction excerpts generalizing cs with
  | nil =>
    show lineTexts (cs ++ []) = lineTexts cs ++ []
    rw [List.append_nil, List.append_nil]
  | cons excerpt excerpts ih =>
    rw [List.map_cons, String.join_cons, String.toList_append, ← List.append_assoc, ih,
      lineTexts_append_excerptBlock htag, List.flatMap_cons, List.append_assoc]

/-- Behind lines without a fence, the texts between the fences are those of the excerpts if and only
if no line of an excerpt is taken for a fence. -/
theorem codeTexts_blocks_iff (excerpts : List Excerpt) {lines : List (List Char)}
    (h : ∀ line ∈ lines, isFence line = false) :
    (everySecond ((lines ++ excerpts.flatMap (blockLines tag)).splitOnP isFence)).map joinLines
        = excerpts.map (·.text.toList)
      ↔ ∀ excerpt ∈ excerpts, IsFenceFree excerpt.text.toList := by
  induction excerpts generalizing lines with
  | nil =>
    rw [List.flatMap_nil, List.append_nil, List.splitOnP_eq_singleton h]
    exact iff_of_true rfl nofun
  | cons excerpt excerpts ih =>
    set text := lineTexts excerpt.text.toList with htext
    set others := excerpts.flatMap (blockLines tag) with hothers
    have hbefore : ∀ line ∈ lines ++ [(excerptLabel excerpt).toList], isFence line = false := by
      intro line hline
      rcases List.mem_append.mp hline with hline | hline
      · exact h line hline
      · rw [List.mem_singleton.mp hline]
        exact isFence_excerptLabel excerpt
    have hlines : lines ++ (excerpt :: excerpts).flatMap (blockLines tag)
        = (lines ++ [(excerptLabel excerpt).toList])
          ++ (fence ++ tag.toList) :: (text ++ fence :: ([] :: others)) := by
      rw [List.flatMap_cons, blockLines, htext, hothers]
      simp
    rw [hlines, List.splitOnP_append_cons _ _ (isFence_append _),
      List.splitOnP_eq_singleton hbefore, List.forall_mem_cons, List.map_cons]
    by_cases hfree : IsFenceFree excerpt.text.toList
    · rw [List.splitOnP_append_cons _ _ isFence_fence, List.splitOnP_eq_singleton hfree]
      have hnext : ∀ line ∈ [([] : List Char)], isFence line = false := by decide
      have hrest := ih hnext
      show joinLines text :: (everySecond (([[]] ++ others).splitOnP isFence)).map joinLines
        = _ ↔ _
      rw [htext, joinLines_lineTexts, List.cons_eq_cons, and_iff_right rfl, hrest,
        and_iff_right hfree]
    · refine iff_of_false (fun heq => hfree ?_) fun hall => hfree hall.1
      obtain ⟨pieces, hpieces⟩ := exists_splitOnP_eq (text ++ fence :: ([] :: others))
      rw [hpieces, takeWhile_append_fence _ _ isFence_fence] at heq
      exact textUntilFence_eq_iff.mp (List.cons.inj heq).1

end Blocks

/-! ### Sections -/

/-- What a section says of a file before its excerpts. -/
def heading (options : FormatOptions) (file : AnalyzedFile) : String :=
  let symbols := file.outline.symbolNames
  "\n## " ++ file.relativePath ++ " (" ++ languageName file.language ++ ", score "
    ++ Number.fixed 1 file.relevance ++ ")\n"
    ++ if options.includeSymbols && !symbols.isEmpty then
      "\nSymbols: " ++ ", ".intercalate symbols ++ "\n" else ""

/-- What a section says before the text of an excerpt that comes after others. -/
def frontOf (options : FormatOptions) (file : AnalyzedFile) (before : List Excerpt)
    (excerpt : Excerpt) : String :=
  heading options file ++ String.join (before.map (excerptBlock (fenceTag file.language)))
    ++ excerptHead (fenceTag file.language) excerpt

variable {file : AnalyzedFile} {before after : List Excerpt} {excerpt : Excerpt}

theorem fileSection_eq (options : FormatOptions) (h : file.excerpts ≠ []) :
    fileSection options file = heading options file
      ++ String.join (file.excerpts.map (excerptBlock (fenceTag file.language))) := by
  have hsome : (!file.excerpts.isEmpty) = true := by
    rw [Bool.not_eq_true', List.isEmpty_eq_false_iff]
    exact h
  rw [fileSection, if_pos hsome]
  rfl

/-- What a section says from the text of an excerpt on. -/
theorem fileSection_eq_front (options : FormatOptions)
    (h : file.excerpts = before ++ excerpt :: after) :
    fileSection options file = frontOf options file before excerpt ++ (excerpt.text ++ "\n```\n"
      ++ String.join (after.map (excerptBlock (fenceTag file.language)))) := by
  have hne : file.excerpts ≠ [] := by
    rw [h]
    exact List.append_ne_nil_of_right_ne_nil _ (List.cons_ne_nil _ _)
  rw [fileSection_eq options hne, frontOf, h, List.map_append, List.map_cons, String.join_append,
    String.join_cons, excerptBlock_eq]
  simp only [String.append_assoc]

theorem textUntilFence_append (text rest : String) :
    textUntilFence (text ++ "\n```\n" ++ rest).toList = textUntilFence text.toList := by
  have hlist : (text ++ "\n```\n" ++ rest).toList
      = text.toList ++ '\n' :: (fence ++ '\n' :: rest.toList) := by
    simp [fence]
  rw [textUntilFence, hlist, lineTexts_append_newline, lineTexts_append_newline,
    lineTexts_of_not_mem newline_not_mem_fence]
  exact congrArg joinLines (takeWhile_append_fence _ _ isFence_fence)

/-- Whatever stands before an excerpt and after it in the section of a file, what is read from the
beginning of its text up to the next line with three backticks in front is the excerpt up to its
own first such line, so all of it if and only if it has no such line.  And if the heading has no such
line, what is read between one such line and the next throughout the section are the texts of the
excerpts if and only if none of them has such a line. -/
theorem excerpt_read_back_iff (options : FormatOptions)
    (h : file.excerpts = before ++ excerpt :: after) :
    (∃ rest, fileSection options file = frontOf options file before excerpt ++ rest
        ∧ textUntilFence rest.toList = textUntilFence excerpt.text.toList
        ∧ (textUntilFence rest.toList = excerpt.text.toList ↔ IsFenceFree excerpt.text.toList))
      ∧ (IsFenceFree (heading options file).toList →
        (codeTexts (fileSection options file).toList = file.excerpts.map (·.text.toList)
          ↔ ∀ excerpt ∈ file.excerpts, IsFenceFree excerpt.text.toList)) := by
  constructor
  · refine ⟨_, fileSection_eq_front options h, textUntilFence_append _ _, ?_⟩
    rw [textUntilFence_append]
    exact textUntilFence_eq_iff
  · intro hheading
    have hne : file.excerpts ≠ [] := by
      rw [h]
      exact List.append_ne_nil_of_right_ne_nil _ (List.cons_ne_nil _ _)
    rw [codeTexts, fileSection_eq options hne, String.toList_append,
      lineTexts_append_blocks (newline_not_mem_fenceTag _)]
    exact codeTexts_blocks_iff file.excerpts hheading

/-- An excerpt that holds a code block of its own. -/
def nested : Excerpt := ⟨1, 4, "Install\n```\nls\n```"⟩

/-- The file of that excerpt. -/
def nestedFile : AnalyzedFile :=
  { (default : AnalyzedFile) with
    relativePath := "guide.md", language := some .markdown, excerpts := [nested] }

/-- Only the line before its code block is read back. -/
theorem excerpt_read_back_iff_nested :
    nestedFile.excerpts = [] ++ nested :: []
      ∧ ∃ rest, fileSection {} nestedFile = frontOf {} nestedFile [] nested ++ rest
        ∧ textUntilFence rest.toList = "Install".toList := by
  refine ⟨rfl, ?_⟩
  obtain ⟨rest, hsection, hread, -⟩ :=
    (@excerpt_read_back_iff nestedFile [] [] nested {} rfl).1
  exact ⟨rest, hsection, hread.trans (by decide)⟩

/-- An excerpt is not read back in full whatever it is. -/
theorem not_forall_excerpt_read_back :
    ¬∀ (options : FormatOptions) (file : AnalyzedFile) (before after : List Excerpt)
        (excerpt : Excerpt) (rest : String), file.excerpts = before ++ excerpt :: after →
      fileSection options file = frontOf options file before excerpt ++ rest →
        textUntilFence rest.toList = excerpt.text.toList := by
  intro hall
  have hread := hall {} nestedFile [] [] nested _ rfl (fileSection_eq_front {} rfl)
  rw [textUntilFence_append] at hread
  exact absurd hread (by decide)

end SourceRetrieval.Render
