/-
Cutting a text into pieces and putting the pieces together again.

* `splitBy_append_cons` — a separator cuts a text into two that are cut apart;
* `splitBy_intercalate` — pieces joined with a character come back when the
  text is cut at it.

Design notes: `splitBy` is the library's `List.splitOnP`, from which its laws
are taken.
-/
import SourceRetrieval.Text.Blank

namespace SourceRetrieval.Text

theorem splitBy_eq_splitOnP (sep : Char → Bool) (cs : List Char) :
    splitBy sep cs = cs.splitOnP sep := by
  induction cs with
  | nil => rfl
  | cons c cs ih =>
    rw [splitBy_cons, ih, List.splitOnP_cons_eq_if_modifyHead, splitBy.step.eq_def]
    split
    · rfl
    · cases h : cs.splitOnP sep with
      | nil => exact absurd h (List.splitOnP_ne_nil sep cs)
      | cons piece others => rfl

theorem splitBy_ne_nil (sep : Char → Bool) (cs : List Char) : splitBy sep cs ≠ [] := by
  rw [splitBy_eq_splitOnP]
  exact List.splitOnP_ne_nil sep cs

/-- A separator cuts a text into two that are cut apart. -/
theorem splitBy_append_cons {sep : Char → Bool} {s : Char} (hs : sep s = true)
    (as bs : List Char) : splitBy sep (as ++ s :: bs) = splitBy sep as ++ splitBy sep bs := by
  rw [splitBy_eq_splitOnP, splitBy_eq_splitOnP, splitBy_eq_splitOnP]
  exact List.splitOnP_append_cons as bs hs

theorem splitBy_eq_singleton {sep : Char → Bool} {cs : List Char}
    (h : ∀ c ∈ cs, sep c = false) : splitBy sep cs = [cs] := by
  rw [splitBy_eq_splitOnP]
  exact List.splitOnP_eq_singleton h

/-- Pieces without the separator come back when they are joined and cut again. -/
theorem splitBy_intercalate {s : Char} {pieces : List (List Char)} (hne : pieces ≠ [])
    (h : ∀ piece ∈ pieces, s ∉ piece) : splitBy (· == s) ([s].intercalate pieces) = pieces := by
  rw [splitBy_eq_splitOnP]
  exact List.splitOn_intercalate s h hne

theorem intercalate_append {s : Char} {as bs : List (List Char)} (has : as ≠ [])
    (hbs : bs ≠ []) : [s].intercalate (as ++ bs) = [s].intercalate as ++ s :: [s].intercalate bs := by
  induction as with
  | nil => exact absurd rfl has
  | cons a as ih =>
    cases as with
    | nil => rw [List.singleton_append, List.intercalate_cons_of_ne_nil hbs]; simp
    | cons a' as =>
      rw [List.cons_append, List.intercalate_cons_of_ne_nil (by simp), ih (by simp),
        List.intercalate_cons_cons]
      simp

theorem getLast?_intercalate {s : Char} {pieces : List (List Char)} {piece : List Char}
    (hpiece : piece ≠ []) : ([s].intercalate (pieces ++ [piece])).getLast? = piece.getLast? := by
  by_cases h : pieces = []
  · subst h
    rw [List.nil_append, List.intercalate_singleton]
  · rw [intercalate_append h (List.cons_ne_nil _ _), List.intercalate_singleton,
      List.getLast?_append, List.getLast?_cons, List.getLast?_eq_some_getLast hpiece]
    rfl

/-- No piece holds a separator. -/
theorem sep_eq_false_of_mem_splitBy {sep : Char → Bool} {cs piece : List Char}
    (h : piece ∈ splitBy sep cs) : ∀ c ∈ piece, sep c = false := by
  induction cs generalizing piece with
  | nil =>
    rw [splitBy_nil, List.mem_singleton] at h
    subst h
    nofun
  | cons d cs ih =>
    rw [splitBy_cons, splitBy.step.eq_def] at h
    split at h
    · rcases List.mem_cons.mp h with rfl | h
      · nofun
      · exact ih h
    · rename_i hd
      cases hcs : splitBy sep cs with
      | nil => exact absurd hcs (splitBy_ne_nil sep cs)
      | cons first others =>
        rw [hcs] at h ih
        rcases List.mem_cons.mp h with rfl | h
        · intro c hc
          rcases List.mem_cons.mp hc with rfl | hc
          · exact Bool.not_eq_true _ ▸ hd
          · exact ih List.mem_cons_self c hc
        · exact ih (List.mem_cons_of_mem _ h)

end SourceRetrieval.Text
