/-
The edit distance as the least number of edits.

* `isLeast_distance` — the recursive distance is the length of a shortest way from one
  text to the other by single edits;
* `lastRow_eq` — the row of a prefix holds its distances to the prefixes of the other text;
* `editDistance_eq` — so the last cell of the last row is the recursive distance;
* `editDistance_isLeast` — the laws of a distance follow from those of ways.

Design notes: a row belongs to a prefix of the first text, so the rows run through the
recursion on the reversed texts.  Ways can be reversed with their texts, and therefore the
direction makes no difference.
-/
import Mathlib.Order.Bounds.Basic
import SourceRetrieval.Proofs.Ranking.Share

namespace SourceRetrieval.Ranking

/-- One text becomes the other when a single character is inserted, deleted or replaced. -/
inductive Edit : List Char → List Char → Prop where
  | insert (before : List Char) (c : Char) (after : List Char) :
      Edit (before ++ after) (before ++ c :: after)
  | delete (before : List Char) (c : Char) (after : List Char) :
      Edit (before ++ c :: after) (before ++ after)
  | replace (before : List Char) (c d : Char) (after : List Char) :
      Edit (before ++ c :: after) (before ++ d :: after)

/-- One text becomes the other by so many edits, one after another. -/
inductive Edits : Nat → List Char → List Char → Prop where
  | none (text : List Char) : Edits 0 text text
  | step {n : Nat} {first second third : List Char} :
      Edit first second → Edits n second third → Edits (n + 1) first third

/-- The distance of two texts by recursion on their characters. -/
def distance : List Char → List Char → Nat
  | [], second => second.length
  | first, [] => first.length
  | c :: first, d :: second =>
    min (min (distance first (d :: second) + 1) (distance (c :: first) second + 1))
      (distance first second + if c = d then 0 else 1)
  termination_by first second => first.length + second.length

variable {m n : Nat} {first second third : List Char}

/-! ### Ways from one text to another -/

theorem Edit.symm (h : Edit first second) : Edit second first := by
  cases h with
  | insert before c after => exact .delete before c after
  | delete before c after => exact .insert before c after
  | replace before c d after => exact .replace before d c after

theorem Edit.cons (x : Char) (h : Edit first second) : Edit (x :: first) (x :: second) := by
  cases h with
  | insert before c after => exact .insert (x :: before) c after
  | delete before c after => exact .delete (x :: before) c after
  | replace before c d after => exact .replace (x :: before) c d after

theorem Edit.reverse (h : Edit first second) : Edit first.reverse second.reverse := by
  cases h with
  | insert before c after => simpa using Edit.insert after.reverse c before.reverse
  | delete before c after => simpa using Edit.delete after.reverse c before.reverse
  | replace before c d after => simpa using Edit.replace after.reverse c d before.reverse

namespace Edits

theorem of_edit (h : Edit first second) : Edits 1 first second := .step h (.none second)

theorem trans (h : Edits m first second) (h' : Edits n second third) :
    Edits (m + n) first third := by
  induction h with
  | none text => rwa [Nat.zero_add]
  | step hedit _ ih =>
    rw [Nat.add_right_comm]
    exact .step hedit (ih h')

theorem symm (h : Edits n first second) : Edits n second first := by
  induction h with
  | none text => exact .none text
  | step hedit _ ih => exact ih.trans (of_edit hedit.symm)

theorem cons (x : Char) (h : Edits n first second) : Edits n (x :: first) (x :: second) := by
  induction h with
  | none text => exact .none (x :: text)
  | step hedit _ ih => exact .step (hedit.cons x) ih

theorem reverse (h : Edits n first second) : Edits n first.reverse second.reverse := by
  induction h with
  | none text => exact .none text.reverse
  | step hedit _ ih => exact .step hedit.reverse ih

theorem min (h : Edits m first second) (h' : Edits n first second) :
    Edits (min m n) first second := by
  rcases min_choice m n with hmin | hmin
  · rwa [hmin]
  · rwa [hmin]

theorem eq_of_zero (h : Edits 0 first second) : first = second := by
  cases h
  rfl

/-- A text is written character by character. -/
theorem of_nil (text : List Char) : Edits text.length [] text := by
  induction text with
  | nil => exact .none []
  | cons c text ih => exact .step (.insert [] c []) (ih.cons c)

end Edits

/-! ### The recursive distance -/

theorem distance_nil_left (second : List Char) : distance [] second = second.length := by
  rw [distance]

theorem distance_nil_right (first : List Char) : distance first [] = first.length := by
  cases first with
  | nil => rw [distance]
  | cons c first =>
    rw [distance]
    nofun

theorem distance_cons_cons (c d : Char) (first second : List Char) :
    distance (c :: first) (d :: second)
      = min (min (distance first (d :: second) + 1) (distance (c :: first) second + 1))
        (distance first second + if c = d then 0 else 1) := by
  rw [distance]

theorem distance_self (text : List Char) : distance text text = 0 := by
  induction text with
  | nil => rw [distance_nil_left, List.length_nil]
  | cons c text ih =>
    rw [distance_cons_cons, ih, if_pos rfl]
    omega

theorem distance_cons_left_le (c : Char) (first second : List Char) :
    distance (c :: first) second ≤ distance first second + 1 := by
  cases second with
  | nil => rw [distance_nil_right, distance_nil_right, List.length_cons]
  | cons d second =>
    rw [distance_cons_cons]
    omega

theorem distance_cons_right_le (d : Char) (first second : List Char) :
    distance first (d :: second) ≤ distance first second + 1 := by
  cases first with
  | nil => rw [distance_nil_left, distance_nil_left, List.length_cons]
  | cons c first =>
    rw [distance_cons_cons]
    omega

theorem distance_le_cons_left (c : Char) (first second : List Char) :
    distance first second ≤ distance (c :: first) second + 1 := by
  induction second with
  | nil =>
    rw [distance_nil_right, distance_nil_right, List.length_cons]
    omega
  | cons d second ih =>
    have hright := distance_cons_right_le d first second
    rw [distance_cons_cons]
    split <;> omega

/-- What is true of two texts stays true with a character in front of both. -/
theorem distance_cons_le_cons (x : Char)
    (h : ∀ third, distance first third ≤ distance second third + 1) (third : List Char) :
    distance (x :: first) third ≤ distance (x :: second) third + 1 := by
  induction third with
  | nil =>
    have hnil := h []
    rw [distance_nil_right, distance_nil_right] at hnil ⊢
    rw [List.length_cons, List.length_cons]
    omega
  | cons d third ih =>
    have hboth := h (d :: third)
    have hone := h third
    rw [distance_cons_cons, distance_cons_cons]
    omega

theorem distance_append_le_append (before : List Char)
    (h : ∀ third, distance first third ≤ distance second third + 1) (third : List Char) :
    distance (before ++ first) third ≤ distance (before ++ second) third + 1 := by
  induction before generalizing third with
  | nil => exact h third
  | cons x before ih => exact distance_cons_le_cons x ih third

theorem distance_replace_le (c d : Char) (first third : List Char) :
    distance (c :: first) third ≤ distance (d :: first) third + 1 := by
  induction third with
  | nil =>
    rw [distance_nil_right, distance_nil_right, List.length_cons, List.length_cons]
    omega
  | cons e third ih =>
    have hleft := distance_cons_left_le c first (e :: third)
    have hright := distance_cons_right_le e (c :: first) third
    rw [distance_cons_cons c, distance_cons_cons d] at *
    split <;> split <;> omega

/-- One edit changes the distance to a third text by one at most. -/
theorem Edit.distance_le (h : Edit first second) (third : List Char) :
    distance first third ≤ distance second third + 1 := by
  cases h with
  | insert before c after =>
    exact distance_append_le_append before (distance_le_cons_left c after) third
  | delete before c after =>
    exact distance_append_le_append before (distance_cons_left_le c after) third
  | replace before c d after =>
    exact distance_append_le_append before (distance_replace_le c d after) third

theorem Edits.distance_le (h : Edits n first second) : distance first second ≤ n := by
  induction h with
  | none text => exact (distance_self text).le
  | step hedit _ ih => exact (hedit.distance_le _).trans (Nat.succ_le_succ ih)

theorem edits_distance (first second : List Char) :
    Edits (distance first second) first second := by
  induction first, second using distance.induct with
  | case1 second =>
    rw [distance_nil_left]
    exact .of_nil second
  | case2 first =>
    rw [distance_nil_right]
    exact (Edits.of_nil first).symm
  | case3 c first d second hdelete hinsert hreplace =>
    have hways : Edits (distance first (d :: second) + 1) (c :: first) (d :: second)
        ∧ Edits (distance (c :: first) second + 1) (c :: first) (d :: second)
        ∧ Edits (distance first second + if c = d then 0 else 1) (c :: first) (d :: second) := by
      refine ⟨.step (.delete [] c first) hdelete,
        hinsert.trans (.of_edit (.insert [] d second)), ?_⟩
      split
      next hsame =>
        subst hsame
        exact hreplace.cons c
      next => exact (hreplace.cons c).trans (.of_edit (.replace [] c d second))
    obtain ⟨hdeleted, hinserted, hreplaced⟩ := hways
    rw [distance_cons_cons]
    exact (hdeleted.min hinserted).min hreplaced

/-- The recursive distance is the least number of edits from one text to the other. -/
theorem isLeast_distance (first second : List Char) :
    IsLeast {n | Edits n first second} (distance first second) :=
  ⟨edits_distance first second, fun _ h => h.distance_le⟩

theorem distance_reverse (first second : List Char) :
    distance first.reverse second.reverse = distance first second := by
  refine (isLeast_distance first.reverse second.reverse).unique
    ⟨(edits_distance first second).reverse, fun n h => ?_⟩
  have hback := h.reverse
  rw [List.reverse_reverse, List.reverse_reverse] at hback
  exact hback.distance_le

theorem distance_le_max (first second : List Char) :
    distance first second ≤ max first.length second.length := by
  induction first, second using distance.induct with
  | case1 second =>
    rw [distance_nil_left]
    exact le_max_right _ _
  | case2 first =>
    rw [distance_nil_right]
    exact le_max_left _ _
  | case3 c first d second _ _ hreplace =>
    rw [distance_cons_cons, List.length_cons, List.length_cons]
    split <;> omega

/-! ### Rows -/

/-- The distances from a text to the prefixes of another: `done` is the first of these
prefixes and `second` what follows it.  Both texts are written last character first. -/
def prefixDistances (first done : List Char) : List Char → List Nat
  | [] => [distance first done]
  | d :: second => distance first done :: prefixDistances first (d :: done) second

theorem prefixDistances_eq_cons (first done second : List Char) :
    ∃ later, prefixDistances first done second = distance first done :: later := by
  cases second with
  | nil => exact ⟨[], rfl⟩
  | cons d second => exact ⟨prefixDistances first (d :: done) second, rfl⟩

theorem prefixDistances_nil (done second : List Char) :
    prefixDistances [] done second = List.range' done.length (second.length + 1) := by
  induction second generalizing done with
  | nil => rw [prefixDistances, distance_nil_left]; rfl
  | cons d second ih =>
    rw [prefixDistances, ih, distance_nil_left]
    rfl

theorem cons_nextCells (c : Char) (first done second : List Char) :
    distance (c :: first) done
        :: nextCells c (distance (c :: first) done) second (prefixDistances first done second)
      = prefixDistances (c :: first) done second := by
  induction second generalizing done with
  | nil => rfl
  | cons d second ih =>
    obtain ⟨later, hlater⟩ := prefixDistances_eq_cons first (d :: done) second
    have hcell : min (min (distance first (d :: done) + 1) (distance (c :: first) done + 1))
        (distance first done + if c = d then 0 else 1) = distance (c :: first) (d :: done) :=
      (distance_cons_cons c d first done).symm
    rw [prefixDistances, prefixDistances, ← ih, hlater, nextCells]
    simp only [hcell]

theorem nextRow_prefixDistances (c : Char) (first second : List Char) :
    nextRow second (prefixDistances first [] second) c = prefixDistances (c :: first) [] second := by
  obtain ⟨later, hlater⟩ := prefixDistances_eq_cons first [] second
  have hhead : (prefixDistances first [] second).headD 0 + 1 = distance (c :: first) [] := by
    rw [hlater, List.headD_cons, distance_nil_right, distance_nil_right, List.length_cons]
  rw [← cons_nextCells, nextRow, hhead]

/-- The last row holds the distances from the first text to the prefixes of the second. -/
theorem lastRow_eq (first second : List Char) :
    lastRow first second = prefixDistances first.reverse [] second := by
  have hrows : ∀ done : List Char,
      first.foldl (nextRow second) (prefixDistances done [] second)
        = prefixDistances (first.reverse ++ done) [] second := by
    induction first with
    | nil => exact fun done => rfl
    | cons c first ih =>
      intro done
      rw [List.foldl_cons, nextRow_prefixDistances, ih, List.reverse_cons, List.append_assoc]
      rfl
  have hbegin : List.range (second.length + 1) = prefixDistances [] [] second := by
    rw [prefixDistances_nil, List.range_eq_range', List.length_nil]
  rw [lastRow, hbegin, hrows, List.append_nil]

theorem getLast?_prefixDistances (first done second : List Char) :
    (prefixDistances first done second).getLast?
      = some (distance first (second.reverse ++ done)) := by
  induction second generalizing done with
  | nil => rfl
  | cons d second ih =>
    rw [prefixDistances, List.getLast?_cons, ih, Option.getD_some, List.reverse_cons,
      List.append_assoc]
    rfl

theorem editDistance_eq (first second : List Char) :
    editDistance first second = distance first second := by
  rw [editDistance, lastRow_eq, getLast?_prefixDistances, Option.getD_some, List.append_nil,
    distance_reverse]

/-- The rows compute the least number of insertions, deletions and replacements that turn one
text into the other, which is the distance by recursion on the characters.  It is a distance, and
as a share of the longer text it is one at most. -/
theorem editDistance_isLeast (first second : List Char) :
    IsLeast {n | Edits n first second} (editDistance first second)
      ∧ editDistance first second = distance first second
      ∧ editDistance second first = editDistance first second
      ∧ (editDistance first second = 0 ↔ first = second)
      ∧ (∀ third, editDistance first third
          ≤ editDistance first second + editDistance second third)
      ∧ editDistance first second ≤ max first.length second.length
      ∧ (0 < max first.length second.length → max first.length second.length < 2 ^ 64 →
        share (editDistance first second) (max first.length second.length) ≤ 1) := by
  have hleast : ∀ a b, IsLeast {n | Edits n a b} (editDistance a b) := by
    intro a b
    rw [editDistance_eq]
    exact isLeast_distance a b
  have hmax : editDistance first second ≤ max first.length second.length := by
    rw [editDistance_eq]
    exact distance_le_max first second
  refine ⟨hleast first second, editDistance_eq first second, ?_, ⟨fun hzero => ?_, ?_⟩,
    fun third => ?_, hmax, share_le_one hmax⟩
  · -- A way there is a way back.
    exact le_antisymm ((hleast second first).2 (hleast first second).1.symm)
      ((hleast first second).2 (hleast second first).1.symm)
  · have hways := (hleast first second).1
    rw [hzero] at hways
    exact hways.eq_of_zero
  · rintro rfl
    exact Nat.le_zero.mp ((hleast first first).2 (.none first))
  · exact (hleast first third).2 ((hleast first second).1.trans (hleast second third).1)

/-- Three edits of seven characters. -/
theorem editDistance_isLeast_kitten :
    editDistance "kitten".toList "sitting".toList = 3 ∧ share 3 7 ≤ 1 := by
  have hdistance : editDistance "kitten".toList "sitting".toList = 3 := by decide
  have hlongest : max "kitten".toList.length "sitting".toList.length = 7 := by decide
  obtain ⟨-, -, -, -, -, -, hshare⟩ := editDistance_isLeast "kitten".toList "sitting".toList
  rw [hdistance, hlongest] at hshare
  exact ⟨hdistance, hshare (by decide) (by decide)⟩

end SourceRetrieval.Ranking
