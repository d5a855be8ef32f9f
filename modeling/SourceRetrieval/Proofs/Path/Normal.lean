/-
Normal forms.

A list of components is settled if bringing it into its normal form leaves it as
it is (`IsSettled`).

* `isSettled_normalComponents` — normal forms are settled, so to normalize a path
  twice is to normalize it once (`normalize_normalize`);
* `IsSettled.concat` — a name may be added to a settled list.

Design notes: the normal form is built on a stack, the last component on top, so
a list is settled if its components, put on the stack one after the other, all
stay there.  What is said of a step is therefore said of stacks.
-/
import SourceRetrieval.Proofs.Path.Components

namespace SourceRetrieval.Path

/-- Nothing is left to be resolved among the components. -/
def IsSettled (cs : List Component) : Prop := normalComponents cs = cs

theorem normalComponents_concat (cs : List Component) (c : Component) :
    normalComponents (cs ++ [c]) = (normalStep (normalComponents cs).reverse c).reverse := by
  simp only [normalComponents, List.foldl_append, List.foldl_cons, List.foldl_nil,
    List.reverse_reverse]

/-- A name stays where it is put. -/
theorem IsSettled.concat {cs : List Component} (h : IsSettled cs) (name : String) :
    IsSettled (cs ++ [.normal name]) := by
  rw [IsSettled, normalComponents_concat, h, normalStep, List.reverse_cons, List.reverse_reverse]

/-- What is left when the last name is taken away is settled. -/
theorem IsSettled.of_concat {cs : List Component} {name : String}
    (h : IsSettled (cs ++ [.normal name])) : IsSettled cs := by
  rw [IsSettled, normalComponents_concat, normalStep, List.reverse_cons, List.reverse_reverse] at h
  exact List.append_cancel_right h

/-- A step leads from one settled list to another; a stack is the reverse of a list. -/
theorem isSettled_normalStep {stack : List Component} (h : IsSettled stack.reverse)
    (c : Component) : IsSettled (normalStep stack c).reverse := by
  cases c with
  | root => rfl
  | current => exact h
  | normal name =>
    rw [normalStep, List.reverse_cons]
    exact h.concat name
  | parent =>
    -- The step undoes a name, is void at a root, and else is put on the stack.
    cases stack with
    | nil => rfl
    | cons top rest =>
      cases top with
      | normal name =>
        rw [List.reverse_cons] at h
        exact h.of_concat
      | root => exact h
      | current | parent =>
        rw [IsSettled, normalStep, List.reverse_cons, normalComponents_concat, h,
          List.reverse_reverse, normalStep, List.reverse_cons]
        all_goals simp

theorem isSettled_normalComponents (cs : List Component) : IsSettled (normalComponents cs) := by
  have hfold : ∀ (ds stack : List Component), IsSettled stack.reverse →
      IsSettled (ds.foldl normalStep stack).reverse := by
    intro ds
    induction ds with
    | nil => exact fun _ h => h
    | cons d ds ih => exact fun stack h => ih _ (isSettled_normalStep h d)
  exact hfold cs [] rfl

theorem components_normalize (p : Path) :
    p.normalize.components = normalComponents p.components :=
  components_ofComponents (wellFormed_normalComponents (wellFormed_components p))

theorem isSettled_components_normalize (p : Path) : IsSettled p.normalize.components := by
  rw [components_normalize]
  exact isSettled_normalComponents _

/-- A plain path the components of which are settled is normal. -/
theorem normalize_eq_self {p : Path} (hplain : p.IsPlain) (hsettled : IsSettled p.components) :
    p.normalize = p := by
  rw [normalize, hsettled, hplain]

theorem normalize_normalize (p : Path) : p.normalize.normalize = p.normalize :=
  normalize_eq_self (isPlain_normalize p) (isSettled_components_normalize p)

end SourceRetrieval.Path
