/-
Texts without the blanks at their ends.

* `trim_eq_nil_iff` — nothing is left just of a text that is blank;
* `trim_append_cons` — of any other text what is left begins with its first character that is no
  blank.
-/
import Mathlib.Data.List.Basic
import Mathlib.Data.List.TakeWhile
import SourceRetrieval.Text.Blank

namespace SourceRetrieval.Text

variable {cs blanks rest : List Char} {c : Char}

theorem trimEnd_cons (hc : isBlank c = false) (rest : List Char) :
    trimEnd (c :: rest) = c :: trimEnd rest := by
  rw [trimEnd, trimEnd, dropEndWhile, dropEndWhile, List.reverse_cons, List.dropWhile_append]
  split
  next hrest =>
    rw [List.isEmpty_iff.mp hrest, List.dropWhile_cons_of_neg (by rw [hc]; exact Bool.false_ne_true)]
    rfl
  next => rw [List.reverse_append, List.reverse_singleton, List.singleton_append]

/-- Leading blanks are cut away up to the first other character. -/
theorem trim_append_cons (hblanks : ∀ b ∈ blanks, isBlank b = true) (hc : isBlank c = false)
    (rest : List Char) : trim (blanks ++ c :: rest) = c :: trimEnd rest := by
  rw [trim, trimStart, List.dropWhile_append_of_pos hblanks,
    List.dropWhile_cons_of_neg (by rw [hc]; exact Bool.false_ne_true), trimEnd_cons hc]

/-- From a text without blanks nothing is cut away. -/
theorem trim_eq_self (h : ∀ c ∈ cs, isBlank c = false) : trim cs = cs := by
  have hdrop : ∀ ds : List Char, (∀ c ∈ ds, isBlank c = false) → ds.dropWhile isBlank = ds := by
    intro ds hds
    cases ds with
    | nil => rfl
    | cons d ds =>
      exact List.dropWhile_cons_of_neg (by rw [hds d List.mem_cons_self]; exact Bool.false_ne_true)
  rw [trim, trimStart, hdrop cs h, trimEnd, dropEndWhile,
    hdrop _ fun c hc => h c (List.mem_reverse.mp hc), List.reverse_reverse]

/-- A text is blank, or has a first character that is no blank. -/
theorem blank_or_exists (cs : List Char) : (∀ c ∈ cs, isBlank c = true) ∨ ∃ blanks c rest,
    cs = blanks ++ c :: rest ∧ (∀ b ∈ blanks, isBlank b = true) ∧ isBlank c = false := by
  induction cs with
  | nil => exact .inl nofun
  | cons d cs ih =>
    cases hd : isBlank d with
    | false => exact .inr ⟨[], d, cs, rfl, nofun, hd⟩
    | true =>
      refine ih.imp (fun h => List.forall_mem_cons.mpr ⟨hd, h⟩) ?_
      rintro ⟨blanks, c, rest, rfl, hblanks, hc⟩
      exact ⟨d :: blanks, c, rest, rfl, List.forall_mem_cons.mpr ⟨hd, hblanks⟩, hc⟩

theorem trim_eq_nil_iff : trim cs = [] ↔ cs.all isBlank = true := by
  rcases blank_or_exists cs with hblank | ⟨blanks, c, rest, rfl, hblanks, hc⟩
  · have hstart : trimStart cs = [] := List.dropWhile_eq_nil_iff.mpr hblank
    exact iff_of_true (by rw [trim, hstart]; rfl) (List.all_eq_true.mpr hblank)
  · rw [trim_append_cons hblanks hc, List.all_append, List.all_cons, hc, Bool.false_and,
      Bool.and_false]
    exact iff_of_false (List.cons_ne_nil _ _) Bool.false_ne_true

end SourceRetrieval.Text
