/-
Lists whose entries are kept apart or in order.

* `pushUnique` adds an entry that is not there yet, `distinct` keeps each entry
  where it stands first;
* `sortOn` sorts by a number and keeps the order of equals.
-/

namespace SourceRetrieval

/-- Add an entry at the end of a list that does not have it. -/
def pushUnique {α : Type} [BEq α] (list : List α) (value : α) : List α :=
  if list.contains value then list else list ++ [value]

/-- The entries whose keys are not in `seen`, of each key the first. -/
def distinctFrom {α κ : Type} [BEq κ] (key : α → κ) (seen : List κ) : List α → List α
  | [] => []
  | x :: xs =>
    if seen.contains (key x) then distinctFrom key seen xs
    else x :: distinctFrom key (key x :: seen) xs

/-- Of the entries with one key the first. -/
def distinctOn {α κ : Type} [BEq κ] (key : α → κ) (list : List α) : List α :=
  distinctFrom key [] list

/-- The entries of a list, each where it stands first. -/
def distinct {α : Type} [BEq α] (list : List α) : List α := distinctOn id list

/-- Sort by a number, entries with the same number keeping their order. -/
def sortOn {α : Type} (key : α → Nat) (list : List α) : List α :=
  list.mergeSort fun a b => key a ≤ key b

end SourceRetrieval
