/-
The order of paths.

Components are ordered by kind and then by name, and paths from the left by
their components.  Both orders are total, and two paths that compare as equal
are the same.
-/
import SourceRetrieval.Path

namespace SourceRetrieval

namespace Component

/-- The name of a component; none but names have one. -/
def name : Component → String
  | normal name => name
  | _ => ""

theorem compare_eq_compareLex :
    compare = compareLex (compareOn rank) (compareOn name) := by
  funext a b
  cases a <;> cases b <;> rfl

instance : Std.TransCmp compare := by
  rw [compare_eq_compareLex]
  infer_instance

instance : Std.LawfulEqCmp compare where
  eq_of_compare {a b} h := by
    rw [compare_eq_compareLex, compareLex_eq_eq] at h
    obtain ⟨hrank, hname⟩ := h
    simp only [compareOn, Std.LawfulEqCmp.compare_eq_iff_eq] at hrank hname
    cases a <;> cases b <;> simp_all [rank, name]

end Component

namespace Path

theorem compareComponents_eq_compareLex :
    compareComponents = List.compareLex Component.compare := by
  funext as bs
  induction as generalizing bs with
  | nil => cases bs <;> rfl
  | cons a as ih =>
    cases bs with
    | nil => rfl
    | cons b bs => rw [compareComponents, List.compareLex_cons_cons, ih]

instance : Std.TransCmp compareComponents := by
  rw [compareComponents_eq_compareLex]
  infer_instance

instance : Std.LawfulEqCmp compareComponents := by
  rw [compareComponents_eq_compareLex]
  infer_instance

instance : Std.TransCmp compare where
  eq_swap {p q} := @Std.OrientedCmp.eq_swap _ compareComponents _ p.components q.components
  isLE_trans {p q r} :=
    @Std.TransCmp.isLE_trans _ compareComponents _ p.components q.components r.components

/-- Only paths with the same components compare as equal. -/
theorem compare_eq_iff {p q : Path} : p.compare q = .eq ↔ p.components = q.components :=
  @Std.LawfulEqCmp.compare_eq_iff_eq _ compareComponents _ _ _

theorem same_iff {p q : Path} : p.same q = true ↔ p.components = q.components := beq_iff_eq

end Path

end SourceRetrieval
