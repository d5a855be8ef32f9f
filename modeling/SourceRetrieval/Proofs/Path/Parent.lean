/-
The path above a path.

* `parent?_eq_none_iff` — only the root and the empty path have none above;
* `components_parent?` — the path above is reached by leaving out the last component.

Design notes: the path above is cut out of the text, so the pieces that are no components
go with the last one that is.  The first piece is always a component, if only a dot.
-/
import SourceRetrieval.Proofs.Path.Components

namespace SourceRetrieval.Path

open Text

/-! ### Pieces that are no components -/

/-- The pieces up to the last one that is a component, which come in reverse. -/
def behindVoid (pieces : List (List Char)) : List (List Char) :=
  pieces.dropWhile fun piece => (pieceComponent? piece).isNone

theorem dropVoid_append (pieces : List (List Char)) (first : List Char) :
    parent?.dropVoid (pieces ++ [first]) = behindVoid pieces ++ [first] := by
  induction pieces with
  | nil =>
    rw [List.nil_append, behindVoid, List.dropWhile_nil, List.nil_append]
    unfold parent?.dropVoid
    split
    next heq =>
      obtain ⟨rfl, rfl⟩ := List.cons_eq_cons.mp heq
      rfl
    next heq =>
      obtain ⟨rfl, rfl⟩ := List.cons_eq_cons.mp heq
      rfl
    next => rfl
  | cons piece pieces ih =>
    have hne : (pieces ++ [first]).isEmpty = false := by simp
    rw [List.cons_append]
    unfold parent?.dropVoid
    split
    next heq =>
      obtain ⟨rfl, rfl⟩ := List.cons_eq_cons.mp heq
      rw [if_neg (by simp [hne]), ih]
      rfl
    next heq =>
      obtain ⟨rfl, rfl⟩ := List.cons_eq_cons.mp heq
      rw [if_neg (by simp [hne]), ih]
      rfl
    next hempty hdot =>
      have hnil : piece ≠ [] := fun h => hempty (pieces ++ [first]) (by rw [h])
      have hsingle : piece ≠ ['.'] := fun h => hdot (pieces ++ [first]) (by rw [h])
      have hsome := pieceComponent?_of_ne hnil hsingle
      rw [behindVoid, List.dropWhile_cons_of_neg (by rw [hsome]; simp), List.cons_append]

theorem filterMap_behindVoid (pieces : List (List Char)) :
    (behindVoid pieces).reverse.filterMap pieceComponent?
      = pieces.reverse.filterMap pieceComponent? := by
  induction pieces with
  | nil => rfl
  | cons piece pieces ih =>
    rw [behindVoid, List.dropWhile_cons]
    split
    next hvoid =>
      rw [Option.isNone_iff_eq_none] at hvoid
      rw [List.reverse_cons, List.filterMap_append, List.filterMap_cons_none hvoid,
        List.filterMap_nil, List.append_nil]
      exact ih
    next => rfl

theorem exists_of_behindVoid_eq_cons {pieces rest : List (List Char)} {piece : List Char}
    (h : behindVoid pieces = piece :: rest) : ∃ c, pieceComponent? piece = some c := by
  have hhead := List.head?_dropWhile_not (fun piece => (pieceComponent? piece).isNone) pieces
  rw [← behindVoid, h, List.head?_cons] at hhead
  exact Option.isSome_iff_exists.mp (by simpa using hhead)

theorem mem_of_mem_behindVoid {pieces : List (List Char)} {piece : List Char}
    (h : piece ∈ behindVoid pieces) : piece ∈ pieces := (List.dropWhile_sublist _).subset h

/-! ### The path above -/

theorem parent?_eq_none_iff {p : Path} :
    p.parent? = none ↔ p.components = [] ∨ p.components = [.root] := by
  rw [parent?]
  constructor
  · intro h
    split at h
    next hlast => exact .inl (List.getLast?_eq_none_iff.mp hlast)
    next hlast =>
      obtain ⟨front, hfront⟩ := List.getLast?_eq_some_iff.mp hlast
      refine .inr ?_
      -- The root can only come first.
      by_cases hnil : front = []
      · rw [hfront, hnil, List.nil_append]
      · have hwf := wellFormed_components p
        rw [hfront] at hwf
        exact absurd (hwf.tail_isStep hnil .root (List.mem_singleton_self _)).1 (by decide)
    next => cases h
  · rintro (h | h) <;> rw [h] <;> rfl

theorem exists_parent? {p : Path} (hnil : p.components ≠ []) (hroot : p.components ≠ [.root]) :
    ∃ q, p.parent? = some q := by
  refine Option.ne_none_iff_exists'.mp fun hnone => ?_
  exact (parent?_eq_none_iff.mp hnone).elim hnil hroot

/-- The text of the path above, without what is void behind or before the last component. -/
theorem toList_text_parent? {p q : Path} {first : List Char} {rest above : List (List Char)}
    (hp : p.pieces = first :: rest) (h : p.parent? = some q)
    (habove : (parent?.dropVoid (behindVoid rest.reverse ++ [first]).tail).reverse = above) :
    q.text.toList = if p.isAbsolute && (['/'].intercalate above).isEmpty then ['/']
      else ['/'].intercalate above := by
  rw [parent?] at h
  split at h
  · cases h
  · cases h
  · rw [show splitBy (· == '/') p.text.toList = first :: rest from hp, List.reverse_cons,
      dropVoid_append] at h
    dsimp only at h
    rw [habove] at h
    rw [← Option.some_inj.mp h]
    exact String.toList_ofList

theorem eq_nil_of_intercalate_eq_nil {first : List Char} {rest : List (List Char)}
    (hslash : ∀ piece ∈ first :: rest, '/' ∉ piece) (h : ['/'].intercalate (first :: rest) = []) :
    first = [] ∧ rest = [] := by
  have hsplit := splitBy_intercalate (List.cons_ne_nil first rest) hslash
  rw [h, splitBy_nil, List.cons_eq_cons] at hsplit
  exact ⟨hsplit.1.symm, hsplit.2.symm⟩

/-- Joined pieces have the components that they stand for; the root alone is a slash. -/
theorem components_of_intercalate {q : Path} {first : List Char} {rest : List (List Char)}
    (hslash : ∀ piece ∈ first :: rest, '/' ∉ piece)
    (htext : q.text.toList = if (['/'].intercalate (first :: rest)).isEmpty then ['/']
      else ['/'].intercalate (first :: rest)) :
    q.components = leadComponent first :: rest.filterMap pieceComponent? := by
  by_cases hempty : ['/'].intercalate (first :: rest) = []
  · obtain ⟨rfl, rfl⟩ := eq_nil_of_intercalate_eq_nil hslash hempty
    rw [if_pos (by rw [hempty]; rfl)] at htext
    have hpieces : q.pieces = [] :: [[]] := by
      rw [pieces, htext]
      rfl
    exact (components_eq (by rw [htext]; exact List.cons_ne_nil _ _) hpieces).trans rfl
  · rw [if_neg (by rwa [List.isEmpty_iff])] at htext
    have hsplit := splitBy_intercalate (List.cons_ne_nil first rest) hslash
    exact components_eq (by rwa [htext]) (by rwa [pieces, htext])

/-- What is left above the last component are pieces of the path. -/
theorem slash_notMem_of_mem_above {p : Path} {first piece : List Char}
    {rest others : List (List Char)} (hp : p.pieces = first :: rest)
    (hbehind : behindVoid rest.reverse = piece :: others) :
    ∀ kept ∈ first :: (behindVoid others).reverse, '/' ∉ kept := by
  intro kept hmem
  refine slash_notMem_of_mem_pieces (p := p) ?_
  rw [hp]
  rcases List.mem_cons.mp hmem with rfl | hmem
  · exact List.mem_cons_self
  · have hothers := mem_of_mem_behindVoid (List.mem_reverse.mp hmem)
    have hkept : kept ∈ behindVoid rest.reverse := by
      rw [hbehind]
      exact List.mem_cons_of_mem _ hothers
    exact List.mem_cons_of_mem _ (List.mem_reverse.mp (mem_of_mem_behindVoid hkept))

theorem components_parent? {p q : Path} (h : p.parent? = some q) :
    ∃ c, p.components = q.components ++ [c] := by
  obtain ⟨hnil, hroot⟩ : p.components ≠ [] ∧ p.components ≠ [.root] := by
    rw [Ne, Ne, ← not_or, ← parent?_eq_none_iff, h]
    nofun
  have hne : p.text.toList ≠ [] := fun htext => hnil (components_of_text_eq_nil htext)
  obtain ⟨first, rest, hp⟩ := List.exists_cons_of_ne_nil (splitBy_ne_nil (· == '/') p.text.toList)
  have habsolute := isAbsolute_iff_of_pieces hne hp
  have hrest := filterMap_behindVoid rest.reverse
  rw [List.reverse_reverse] at hrest
  rw [components_eq hne hp, ← hrest] at hroot ⊢
  cases hbehind : behindVoid rest.reverse with
  | nil =>
    -- There is but one component, which is not the root.
    have habove : (parent?.dropVoid (behindVoid rest.reverse ++ [first]).tail).reverse = [] := by
      rw [hbehind]
      rfl
    have htext := toList_text_parent? hp h habove
    rw [hbehind] at hroot
    have hfirst : first ≠ [] := by
      rintro rfl
      exact hroot rfl
    rw [if_neg (by simp [habsolute, hfirst])] at htext
    exact ⟨leadComponent first, by rw [components_of_text_eq_nil htext]; rfl⟩
  | cons piece others =>
    obtain ⟨c, hc⟩ := exists_of_behindVoid_eq_cons hbehind
    have habove : (parent?.dropVoid (behindVoid rest.reverse ++ [first]).tail).reverse
        = first :: (behindVoid others).reverse := by
      rw [hbehind, List.cons_append, List.tail_cons, dropVoid_append, List.reverse_append]
      rfl
    have htext := toList_text_parent? hp h habove
    have hslash := slash_notMem_of_mem_above hp hbehind
    have hq := components_of_intercalate hslash (htext.trans (if_congr ?_ rfl rfl))
    · refine ⟨c, ?_⟩
      rw [hq, filterMap_behindVoid, List.reverse_cons, List.filterMap_append,
        List.filterMap_cons_some hc]
      rfl
    · -- Only an absolute path can have nothing but the root above it.
      rw [Bool.and_eq_true, and_iff_right_iff_imp, habsolute]
      intro hempty
      exact (eq_nil_of_intercalate_eq_nil hslash (List.isEmpty_iff.mp hempty)).1

end SourceRetrieval.Path
