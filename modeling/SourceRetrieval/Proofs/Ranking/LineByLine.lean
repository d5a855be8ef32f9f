/-
References line by line are references in the whole text.

* `wordOccurrencesFrom_newline` — a name without newline is looked for up to a newline, and
  then from there on;
* `map_start_referencesFrom` — so the references on the lines of a text begin where the name
  is a whole word of the text, outside the lines that declare it;
* `findReferences_eq_wordOccurrences` — there is one for each such place, in order and apart
  from each other.

Design notes: an occurrence may cover the beginning of another one, so the scans are compared
with the characters that are still covered, which never reach beyond the end of a line.
-/
import SourceRetrieval.Proofs.Ranking.References
import SourceRetrieval.Proofs.Text.Occurrences

namespace SourceRetrieval

open Text

namespace Text

variable {needle body rest cs : List Char} {skip start offset : Nat} {previous : Option Char}

/-! ### Scans across a newline -/

theorem isPrefix_append_newline_iff (hneedle : '\n' ∉ needle) :
    needle <+: body ++ '\n' :: rest ↔ needle <+: body := by
  constructor
  · intro h
    obtain hbody | ⟨more, hmore⟩ :=
      List.prefix_or_prefix_of_prefix h (List.prefix_append body ('\n' :: rest))
    · exact hbody
    · -- What the name has after the line would begin with the newline.
      rw [← hmore, List.prefix_append_right_inj] at h
      obtain hnil | ⟨later, hlater, -⟩ := List.prefix_cons_iff.mp h
      · rw [hnil, List.append_nil] at hmore
        exact ⟨[], by rw [hmore, List.append_nil]⟩
      · rw [← hmore, hlater] at hneedle
        exact absurd (List.mem_append_right body List.mem_cons_self) hneedle
  · exact fun h => h.trans (List.prefix_append body _)

/-- A text without newline is looked for up to a newline and from there on. -/
theorem wordOccurrencesFrom_newline (hne : needle ≠ []) (hneedle : '\n' ∉ needle)
    (hskip : skip ≤ body.length) (rest : List Char) :
    wordOccurrencesFrom needle skip start previous (body ++ '\n' :: rest)
      = wordOccurrencesFrom needle skip start previous (body ++ ['\n'])
        ++ wordOccurrencesFrom needle 0 (start + byteLength body + 1) (some '\n') rest := by
  induction body generalizing skip start previous with
  | nil =>
    obtain rfl : skip = 0 := Nat.le_zero.mp hskip
    have hnot : ∀ rest, needle.isPrefixOf ('\n' :: rest) = false := by
      intro rest
      rw [Bool.eq_false_iff, ne_eq, List.isPrefixOf_iff_prefix]
      exact fun h => hne (List.prefix_nil.mp ((isPrefix_append_newline_iff hneedle).mp h))
    show wordOccurrencesFrom needle 0 start previous ('\n' :: rest)
      = wordOccurrencesFrom needle 0 start previous ['\n'] ++ _
    rw [wordOccurrencesFrom, wordOccurrencesFrom, hnot, hnot]
    rfl
  | cons c body ih =>
    rw [List.cons_append, List.cons_append, byteLength_cons, ← Nat.add_assoc]
    cases skip with
    | succ skip => exact ih (Nat.le_of_succ_le_succ hskip)
    | zero =>
      rw [wordOccurrencesFrom, wordOccurrencesFrom]
      have hsame : ∀ rest, needle.isPrefixOf (c :: (body ++ '\n' :: rest)) = true
          ↔ needle <+: c :: body := fun rest => by
        rw [List.isPrefixOf_iff_prefix, ← List.cons_append, isPrefix_append_newline_iff hneedle]
      by_cases hprefix : needle <+: c :: body
      · rw [if_pos ((hsame rest).mpr hprefix), if_pos ((hsame []).mpr hprefix)]
        have hlength := hprefix.length_le
        have hhead : ∀ rest, ((c :: (body ++ '\n' :: rest)).drop needle.length).head?
            = ((c :: body).drop needle.length).head?.or (some '\n') := by
          intro rest
          rw [← List.cons_append, List.drop_append_of_le_length hlength, List.head?_append]
          rfl
        rw [List.length_cons] at hlength
        have hlater := @ih (needle.length - 1) (start + c.utf8Size) (some c) (by omega)
        dsimp only
        rw [hhead, hhead, hlater]
        split
        · rfl
        · rfl
      · rw [if_neg (mt (hsame rest).mp hprefix), if_neg (mt (hsame []).mp hprefix)]
        exact ih (Nat.zero_le _)

theorem wordOccurrencesFrom_add (needle : List Char) (front skip start : Nat)
    (previous : Option Char) (cs : List Char) :
    wordOccurrencesFrom needle skip (front + start) previous cs
      = (wordOccurrencesFrom needle skip start previous cs).map (front + ·) := by
  induction cs generalizing skip start previous with
  | nil => rfl
  | cons c cs ih =>
    cases skip with
    | succ skip => 
      rw [wordOccurrencesFrom, wordOccurrencesFrom, Nat.add_assoc]
      exact ih _ _ _
    | zero =>
      rw [wordOccurrencesFrom, wordOccurrencesFrom, Nat.add_assoc, ih, ih]
      split
      · dsimp only
        split
        · rfl
        · rfl
      · rfl

/-- After a newline a text is looked for as in a text that begins there. -/
theorem wordOccurrencesFrom_of_newline (hne : needle ≠ []) (start : Nat) (cs : List Char) :
    wordOccurrencesFrom needle 0 start (some '\n') cs
      = (wordOccurrences needle cs).map (start + ·) := by
  have hbefore : wordOccurrencesFrom needle 0 0 (some '\n') cs
      = wordOccurrencesFrom needle 0 0 none cs := by
    cases cs with
    | nil => rfl
    | cons c cs => rfl
  rw [wordOccurrences, if_neg (by rwa [List.isEmpty_iff]), ← hbefore, ← wordOccurrencesFrom_add,
    Nat.add_zero]

end Text

/-! ### References of a content -/

namespace Ranking

variable {name line : List Char}

/-- The line of an offset: one more than the number of newlines before it. -/
def lineAt (content : List Char) (offset : Nat) : Nat := (takeBytes offset content).count '\n' + 1

/-- The offsets that are on none of the lines that declare a name. -/
def outsideOf (declared : List Nat) (content : List Char) (offsets : List Nat) : List Nat :=
  offsets.filter fun offset => !declared.contains (lineAt content offset)

/-- The range of a name at an offset. -/
def rangeAt (content name : List Char) (offset : Nat) : MatchRange :=
  ⟨offset, offset + byteLength name, lineAt content offset⟩

theorem outsideOf_append (declared : List Nat) (content : List Char) (as bs : List Nat) :
    outsideOf declared content (as ++ bs)
      = outsideOf declared content as ++ outsideOf declared content bs := List.filter_append as bs

/-- The references on one line begin where its whole words do, unless it declares the name. -/
theorem map_start_line (hne : name ≠ []) (hline : '\n' ∉ line.dropLast) (declared : List Nat)
    (front back : List Char) :
    (if declared.contains (front.count '\n' + 1) then []
      else lineReferences name (front.count '\n' + 1) (byteLength front) line).map Reference.start
      = outsideOf declared (front ++ (line ++ back))
          (wordOccurrencesFrom name 0 (byteLength front) (some '\n') line) := by
  obtain ⟨hhere, -⟩ := lineReferences_spec name hline front back
  have hstarts : (lineReferences name (front.count '\n' + 1) (byteLength front) line).map
      Reference.start = wordOccurrencesFrom name 0 (byteLength front) (some '\n') line := by
    rw [wordOccurrencesFrom_of_newline hne, lineReferences, List.map_map]
    rfl
  have hlineAt : ∀ offset ∈ wordOccurrencesFrom name 0 (byteLength front) (some '\n') line,
      lineAt (front ++ (line ++ back)) offset = front.count '\n' + 1 := by
    rw [← hstarts]
    intro offset hoffset
    obtain ⟨r, hr, rfl⟩ := List.mem_map.mp hoffset
    obtain ⟨hcovers, hnumber, -⟩ := hhere r hr
    exact hcovers.line_eq.symm.trans hnumber
  rw [outsideOf, List.filter_congr fun offset hoffset => by rw [hlineAt offset hoffset]]
  cases declared.contains (front.count '\n' + 1) with
  | true => exact (List.filter_eq_nil_iff.mpr fun _ _ => Bool.false_ne_true).symm
  | false => exact hstarts.trans (List.filter_eq_self.mpr fun _ _ => rfl).symm

theorem map_start_referencesFrom (hne : name ≠ []) (hname : '\n' ∉ name) (declared : List Nat)
    (front cs : List Char) :
    (referencesFrom name declared (front.count '\n' + 1) (byteLength front)
        (lineChunks cs)).map Reference.start
      = outsideOf declared (front ++ cs)
          (wordOccurrencesFrom name 0 (byteLength front) (some '\n') cs) := by
  induction cs using line_induction generalizing front with
  | last cs hcs =>
    by_cases hempty : cs = []
    · rw [hempty]
      rfl
    · have hline : '\n' ∉ cs.dropLast := fun hmem => hcs ((List.dropLast_prefix cs).subset hmem)
      have hlast := map_start_line hne hline declared front []
      rw [List.append_nil] at hlast
      rw [lineChunks_of_not_mem hcs hempty, referencesFrom, referencesFrom, List.append_nil]
      exact hlast
  | line body rest hbody ih =>
    have hline : '\n' ∉ (body ++ ['\n']).dropLast := by rwa [List.dropLast_concat]
    have hlength : byteLength front + byteLength body + 1
        = byteLength (front ++ (body ++ ['\n'])) := by
      rw [byteLength_append, byteLength_concat_newline, Nat.add_assoc]
    have hcs : body ++ '\n' :: rest = (body ++ ['\n']) ++ rest := List.append_cons _ _ _
    have hhere := map_start_line hne hline declared front rest
    have hlater := ih (front ++ (body ++ ['\n']))
    rw [count_append_line hbody, List.append_assoc] at hlater
    rw [lineChunks_append hbody, referencesFrom, List.map_append, ← byteLength_append, hhere,
      hlater, wordOccurrencesFrom_newline hne hname (Nat.zero_le _) rest, outsideOf_append, hlength,
      hcs]

theorem map_start_findReferences (content : List Char) (hname : '\n' ∉ name)
    (declared : List Nat) :
    (findReferences content name declared).map Reference.start
      = outsideOf declared content (wordOccurrences name content) := by
  by_cases hne : name = []
  · rw [hne]
    rfl
  · have hstarts := map_start_referencesFrom hne hname declared [] content
    rw [byteLength_nil, wordOccurrencesFrom_of_newline hne] at hstarts
    simp only [Nat.zero_add, List.map_id'] at hstarts
    rw [findReferences, if_neg (by rwa [List.isEmpty_iff])]
    exact hstarts

/-- The references to a name without newline are its whole words in the content outside the lines
that declare it, in order and apart from each other. -/
theorem findReferences_eq_wordOccurrences (content name : List Char) (declared : List Nat)
    (hname : '\n' ∉ name) :
    let references := findReferences content name declared
    references.map Reference.range
        = (outsideOf declared content (wordOccurrences name content)).map (rangeAt content name)
      ∧ references.Pairwise (fun a b => a.start < b.start ∧ a.stop ≤ b.start)
      ∧ ∀ r ∈ references, cut r.start r.stop content = name := by
  intro references
  obtain ⟨hcovers, -, -, hinOrder⟩ := areReferences_findReferences content name declared
  have hstarts : references.map Reference.start
      = outsideOf declared content (wordOccurrences name content) :=
    map_start_findReferences content hname declared
  have hstop : ∀ r ∈ references, r.stop = r.start + byteLength name := fun r hr =>
    (hcovers r hr).stop_eq
  refine ⟨?_, ?_, fun r hr => (hcovers r hr).cut_eq⟩
  · rw [← hstarts, List.map_map]
    refine List.map_congr_left fun r hr => ?_
    have hline : r.line = lineAt content r.start := (hcovers r hr).line_eq
    show (⟨r.start, r.stop, r.line⟩ : MatchRange) = _
    rw [hline, hstop r hr]
    rfl
  · have hapart : (references.map Reference.start).Pairwise fun a b => a + byteLength name ≤ b := by
      rw [hstarts]
      exact (apart_occurrences name content).sublist
        (List.filter_sublist.trans (sublist_wordOccurrences name content))
    refine hinOrder.and ((List.pairwise_map.mp hapart).imp_of_mem fun ha _ hle => ?_)
    rw [hstop _ ha]
    exact hle

/-- In this text the second occurrence overlaps the first one, the third is on a line that declares
the name, and the last one ends with the text. -/
theorem findReferences_eq_wordOccurrences_overlapping :
    '\n' ∉ "a a".toList
      ∧ (findReferences "a a a\na a = 1\na a".toList "a a".toList [2]).map Reference.range
        = [⟨0, 3, 1⟩, ⟨14, 17, 3⟩] := by
  have hname : '\n' ∉ "a a".toList := by decide
  refine ⟨hname, ?_⟩
  rw [(findReferences_eq_wordOccurrences "a a a\na a = 1\na a".toList "a a".toList [2] hname).1]
  decide

end Ranking

end SourceRetrieval
