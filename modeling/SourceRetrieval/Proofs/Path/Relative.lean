/-
Paths as seen from a root, and back.

* `components_join_text` — to join any relative text is to add the components of its pieces;
* `resolveIn_relativeTo` — the relative path of a path under the root is read as its normal
  form;
* `eq_of_relativeTo_eq` — so different normal paths under the root have different relative
  paths;
* `resolveIn_relativeTo_of_not_under` — a path outside the root is shown whole, and read as it
  is if its text has no backslash.

Design notes: the root itself is shown as an empty text, which is joined as a slash behind the
root and so adds nothing.
-/
import SourceRetrieval.Proofs.Path.Normal

namespace SourceRetrieval.Path

open Text

variable {root p q base : Path} {name : String}

/-! ### Absolute paths -/

theorem isAbsolute_iff_head? : p.isAbsolute = true ↔ p.components.head? = some .root := by
  by_cases hne : p.text.toList = []
  · rw [components_of_text_eq_nil hne, isAbsolute, hne]
    decide
  · obtain ⟨first, rest, hp⟩ := List.exists_cons_of_ne_nil (splitBy_ne_nil (· == '/') p.text.toList)
    rw [isAbsolute_iff_of_pieces hne hp, components_eq hne hp, List.head?_cons, Option.some_inj]
    refine ⟨fun hfirst => hfirst ▸ rfl, fun hroot => ?_⟩
    by_contra hfirst
    -- A piece that is not empty is read as the root by no reading of pieces.
    have hdot : first ≠ ['.'] := by
      rintro rfl
      cases hroot
    have hpiece := pieceComponent?_of_ne hfirst hdot
    rw [hroot] at hpiece
    have hslash : '/' ∉ first := slash_notMem_of_mem_pieces (p := p) (by
      rw [pieces, hp]
      exact List.mem_cons_self)
    rw [← text_of_pieceComponent? hpiece] at hslash
    exact hslash (by decide)

theorem components_ne_nil_of_isAbsolute (h : p.isAbsolute = true) : p.components ≠ [] := by
  intro hnil
  rw [isAbsolute_iff_head?, hnil] at h
  cases h

/-- The root stays at the bottom of a stack. -/
theorem getLast?_normalStep {stack : List Component} (h : stack.getLast? = some .root)
    (c : Component) : (normalStep stack c).getLast? = some .root := by
  obtain ⟨top, rest, rfl⟩ := List.exists_cons_of_ne_nil (l := stack) (by rintro rfl; cases h)
  have hpush : ∀ d : Component, (d :: top :: rest).getLast? = some .root := fun d => by
    rwa [List.getLast?_cons_cons]
  cases c with
  | root => rfl
  | current => exact h
  | normal name => exact hpush _
  | parent =>
    cases top with
    | root => exact h
    | current | parent => exact hpush _
    | normal name =>
      cases rest with
      | nil => cases h
      | cons next rest => rwa [List.getLast?_cons_cons] at h

theorem head?_normalComponents {cs : List Component} (h : cs.head? = some .root) :
    (normalComponents cs).head? = some .root := by
  obtain ⟨rest, rfl⟩ := List.head?_eq_some_iff.mp h
  have hfold : ∀ (ds stack : List Component), stack.getLast? = some .root →
      (ds.foldl normalStep stack).getLast? = some .root := by
    intro ds
    induction ds with
    | nil => exact fun _ h => h
    | cons d ds ih => exact fun stack h => ih _ (getLast?_normalStep h d)
  rw [normalComponents, List.head?_reverse, List.foldl_cons]
  exact hfold rest [.root] rfl

theorem isAbsolute_normalize (h : p.isAbsolute = true) : p.normalize.isAbsolute = true := by
  rw [isAbsolute_iff_head?, components_normalize]
  exact head?_normalComponents (isAbsolute_iff_head?.mp h)

theorem isAbsolute_join (h : base.isAbsolute = true) (name : String) :
    (base.join name).isAbsolute = true := by
  have hhead : base.text.toList.head? = some '/' := by simpa [isAbsolute] using h
  have hnonempty : base.text.isEmpty = false := by
    rw [Bool.eq_false_iff, Ne, String.isEmpty_iff, ← String.toList_eq_nil_iff]
    intro hnil
    rw [hnil] at hhead
    cases hhead
  rw [join, hnonempty, Bool.or_false]
  split
  next hname => exact hname
  next => split <;> simp [isAbsolute, hhead]

theorem isAbsolute_resolveIn (h : root.isAbsolute = true) (text : String) :
    (root.resolveIn text).isAbsolute = true := by
  rw [resolveIn]
  split
  next habsolute => exact isAbsolute_normalize habsolute
  next => exact isAbsolute_normalize (isAbsolute_join h text)

theorem normalize_resolveIn (root : Path) (text : String) :
    (root.resolveIn text).normalize = root.resolveIn text := by
  rw [resolveIn]
  split <;> exact normalize_normalize _

theorem resolveIn_text (habsolute : p.isAbsolute = true) (hnormal : p.normalize = p) :
    root.resolveIn p.text = p := by
  rw [resolveIn]
  exact (if_pos habsolute).trans hnormal

/-! ### Joining a text -/

/-- To join a relative text is to add the components of its pieces. -/
theorem components_join_text (hbase : base.components ≠ [])
    (hname : name.toList.head? ≠ some '/') :
    (base.join name).components
      = base.components ++ (splitBy (· == '/') name.toList).filterMap pieceComponent? := by
  have hne : base.text.toList ≠ [] := fun hnil => hbase (text_eq_nil_iff.mp hnil)
  have hempty : base.text.isEmpty = false := by
    rwa [Bool.eq_false_iff, Ne, String.isEmpty_iff, ← String.toList_eq_nil_iff]
  rw [join, if_neg (by simp [hname, hempty])]
  by_cases hlast : base.text.toList.getLast? = some '/'
  · -- The last piece of the base is empty, and the pieces of the text take its place.
    rw [if_pos (by simpa using hlast)]
    obtain ⟨front, hfront⟩ := List.getLast?_eq_some_iff.mp hlast
    obtain ⟨first, rest, hsplit⟩ := List.exists_cons_of_ne_nil (splitBy_ne_nil (· == '/') front)
    have hbase_pieces : base.pieces = first :: (rest ++ [[]]) := by
      rw [pieces, hfront, splitBy_append_cons (by rfl), hsplit]
      rfl
    have htext : (base.text ++ name).toList = front ++ '/' :: name.toList := by
      rw [String.toList_append, hfront, List.append_assoc]
      rfl
    have hjoin_pieces : (Path.mk (base.text ++ name)).pieces
        = first :: (rest ++ splitBy (· == '/') name.toList) := by
      rw [pieces, htext, splitBy_append_cons (by rfl), hsplit]
      rfl
    rw [components_eq (by rw [htext]; simp) hjoin_pieces, components_eq hne hbase_pieces,
      List.filterMap_append, List.filterMap_append, List.cons_append,
      show [[]].filterMap pieceComponent? = [] from rfl, List.append_nil]
  · rw [if_neg (by simpa using hlast)]
    obtain ⟨first, rest, hsplit⟩ :=
      List.exists_cons_of_ne_nil (splitBy_ne_nil (· == '/') base.text.toList)
    have htext : (base.text ++ "/" ++ name).toList = base.text.toList ++ '/' :: name.toList := by
      rw [String.toList_append, String.toList_append, List.append_assoc]
      rfl
    have hjoin_pieces : (Path.mk (base.text ++ "/" ++ name)).pieces
        = first :: (rest ++ splitBy (· == '/') name.toList) := by
      rw [pieces, htext, splitBy_append_cons (by rfl), hsplit]
      rfl
    rw [components_eq (by rw [htext]; simp) hjoin_pieces, components_eq hne hsplit,
      List.filterMap_append, List.cons_append]

/-! ### There and back -/

theorem relativeTo_eq {rest : List Component} (h : p.components = root.components ++ rest) :
    (root.relativeTo p).toList = ['/'].intercalate (rest.map (·.text.toList)) := by
  rw [relativeTo, under?_eq_some_iff.mpr h, String.toList_intercalate, List.map_map]
  rfl

/-- A relative path has the components below the root. -/
theorem filterMap_splitBy_relativeTo {rest : List Component}
    (h : p.components = root.components ++ rest) (hrest : ∀ c ∈ rest, c.IsStep) :
    (splitBy (· == '/') (root.relativeTo p).toList).filterMap pieceComponent? = rest
      ∧ (root.relativeTo p).toList.head? ≠ some '/' := by
  rw [relativeTo_eq h]
  cases rest with
  | nil => exact ⟨rfl, nofun⟩
  | cons c rest =>
    have hslash : ∀ piece ∈ (c :: rest).map (·.text.toList), '/' ∉ piece := by
      intro piece hpiece
      obtain ⟨d, hd, rfl⟩ := List.mem_map.mp hpiece
      exact (hrest d hd).1
    constructor
    · rw [splitBy_intercalate (by simp) hslash, filterMap_pieceComponent? hrest]
    · intro hhead
      -- The first piece would be empty.
      obtain ⟨others, hothers⟩ := List.head?_eq_some_iff.mp hhead
      have hsplit := splitBy_intercalate (by simp) hslash
      rw [hothers, show splitBy (· == '/') ('/' :: others) = [] :: splitBy (· == '/') others from
        splitBy_append_cons (by rfl) [] others] at hsplit
      exact (hrest c List.mem_cons_self).text_ne_nil (List.cons_eq_cons.mp hsplit).1.symm

/-- The relative path of a path under the root is read as the normal form of the path. -/
theorem resolveIn_relativeTo (hroot : root.isAbsolute = true) (h : p.isUnder root = true) :
    root.resolveIn (root.relativeTo p) = p.normalize := by
  obtain ⟨rest, hrest⟩ := isUnder_iff.mp h
  have hne := components_ne_nil_of_isAbsolute hroot
  have hwf := wellFormed_components p
  rw [hrest] at hwf
  obtain ⟨hpieces, hhead⟩ := filterMap_splitBy_relativeTo hrest (hwf.tail_isStep hne)
  have hjoin := components_join_text hne hhead
  rw [hpieces, ← hrest] at hjoin
  rw [resolveIn, if_neg (by simpa [isAbsolute] using hhead), normalize, hjoin, normalize]

theorem eq_of_relativeTo_eq (hroot : root.isAbsolute = true) (hp : p.isUnder root = true)
    (hq : q.isUnder root = true) (hpnormal : p.normalize = p) (hqnormal : q.normalize = q)
    (h : root.relativeTo p = root.relativeTo q) : p = q := by
  rw [← hpnormal, ← resolveIn_relativeTo hroot hp, h, resolveIn_relativeTo hroot hq, hqnormal]

/-- A path outside the root is shown whole, with its backslashes turned. -/
theorem resolveIn_relativeTo_of_not_under (hp : p.isAbsolute = true)
    (hunder : ¬p.isUnder root = true) (hslash : '\\' ∉ p.text.toList) :
    root.resolveIn (root.relativeTo p) = p.normalize := by
  have htext : root.relativeTo p = p.text := by
    rw [relativeTo, Option.not_isSome_iff_eq_none.mp hunder]
    refine String.toList_inj.mp ?_
    have hself : ∀ c ∈ p.text.toList, (if (c == '\\') = true then '/' else c) = c := by
      intro c hc
      rw [if_neg (by simpa using ne_of_mem_of_not_mem hc hslash)]
    rw [String.toList_map]
    exact (List.map_congr_left hself).trans (List.map_id _)
  rw [htext, resolveIn]
  exact if_pos hp

end SourceRetrieval.Path
