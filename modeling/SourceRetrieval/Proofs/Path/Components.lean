/-
What a path is made of.

The components of a path are those that its pieces between slashes stand for
(`components_eq`).  Reading them off and writing them down undo each other:

* `components_ofComponents` — the path of some components has those components;
* `components_join` — to join a name is to add a component at the end;
* `components_descend` — to join several is to add them all;
* `IsPlain.join` — a path that is written plainly stays so.

Design notes: a component that may stand behind others is a *step*
(`Component.IsStep`), the text of which is a piece between two slashes.  Only
the first component of a path can be none.  A path is plain if it is written as
its components are, so two plain paths that are the same are equal.
-/
import Mathlib.Data.List.Basic
import Mathlib.Data.List.Nodup
import SourceRetrieval.Path.Order
import SourceRetrieval.Proofs.Text.Split

namespace SourceRetrieval

open Text

namespace Component

/-- A component that may stand behind others: its text is a piece that is read as it. -/
def IsStep (c : Component) : Prop :=
  '/' ∉ c.text.toList ∧ Path.pieceComponent? c.text.toList = some c

instance (c : Component) : Decidable c.IsStep := inferInstanceAs (Decidable (_ ∧ _))

theorem isStep_parent : parent.IsStep := ⟨by decide, by decide⟩

namespace IsStep

variable {c : Component}

theorem text_ne_nil (h : c.IsStep) : c.text.toList ≠ [] := by
  intro hnil
  have hc := h.2
  rw [hnil] at hc
  simp [Path.pieceComponent?] at hc

end IsStep

end Component

namespace Path

/-! ### Pieces and components -/

/-- The pieces of a path between its slashes. -/
def pieces (p : Path) : List (List Char) := splitBy (· == '/') p.text.toList

theorem slash_notMem_of_mem_pieces {p : Path} {piece : List Char} (h : piece ∈ p.pieces) :
    '/' ∉ piece := by
  intro hslash
  have := sep_eq_false_of_mem_splitBy h '/' hslash
  simp at this

theorem text_of_pieceComponent? {piece : List Char} {c : Component}
    (h : pieceComponent? piece = some c) : c.text.toList = piece := by
  unfold pieceComponent? at h
  split at h
  · simp at h
  · simp at h
  · rw [Option.some_inj] at h
    subst h
    rfl
  · rw [Option.some_inj] at h
    subst h
    exact String.toList_ofList

/-- What a piece without slashes is read as is a step. -/
theorem isStep_of_pieceComponent? {piece : List Char} {c : Component}
    (hpiece : '/' ∉ piece) (h : pieceComponent? piece = some c) : c.IsStep := by
  have htext := text_of_pieceComponent? h
  exact ⟨htext ▸ hpiece, htext ▸ h⟩

/-- What the first piece of a path is read as. -/
def leadComponent : List Char → Component
  | [] => .root
  | piece => (pieceComponent? piece).getD .current

theorem leadComponent_of_isStep {c : Component} (h : c.IsStep) :
    leadComponent c.text.toList = c := by
  unfold leadComponent
  split
  · rename_i hnil
    exact absurd hnil h.text_ne_nil
  · rw [h.2, Option.getD_some]

theorem pieceComponent?_of_ne {piece : List Char} (hnil : piece ≠ []) (hdot : piece ≠ ['.']) :
    pieceComponent? piece = some (leadComponent piece) := by
  have hsome : ∃ c, pieceComponent? piece = some c := by
    unfold pieceComponent?
    split
    · exact absurd rfl hnil
    · exact absurd rfl hdot
    · exact ⟨_, rfl⟩
    · exact ⟨_, rfl⟩
  obtain ⟨c, hc⟩ := hsome
  rw [leadComponent, hc, Option.getD_some]
  exact hnil

theorem isAbsolute_of_pieces {p : Path} {rest : List (List Char)} (hne : p.text.toList ≠ [])
    (hp : p.pieces = [] :: rest) : p.isAbsolute = true := by
  obtain ⟨c, cs, hcs⟩ := List.exists_cons_of_ne_nil hne
  rw [isAbsolute, hcs, List.head?_cons]
  by_contra hc
  have hsep : (c == '/') = false := by simpa using hc
  rw [pieces, hcs, splitBy_cons, splitBy.step.eq_def, hsep] at hp
  -- A first character that is no slash is in the first piece, which is then not empty.
  rcases hsplit : splitBy (· == '/') cs with _ | ⟨piece, others⟩
  · exact splitBy_ne_nil _ _ hsplit
  · rw [hsplit] at hp
    simp at hp

theorem isAbsolute_iff_of_pieces {p : Path} {first : List Char} {rest : List (List Char)}
    (hne : p.text.toList ≠ []) (hp : p.pieces = first :: rest) :
    p.isAbsolute = true ↔ first = [] := by
  refine ⟨fun h => ?_, fun h => isAbsolute_of_pieces hne (h ▸ hp)⟩
  obtain ⟨c, cs, hcs⟩ := List.exists_cons_of_ne_nil hne
  rw [isAbsolute, hcs, List.head?_cons, beq_iff_eq, Option.some_inj] at h
  have hsplit : p.pieces = [] :: splitBy (· == '/') cs := by
    rw [pieces, hcs, h]
    exact splitBy_append_cons (by rfl) [] cs
  exact (List.cons_eq_cons.mp (hp.symm.trans hsplit)).1

/-- The components of a path that is not empty are those of its pieces. -/
theorem components_eq {p : Path} {first : List Char} {rest : List (List Char)}
    (hne : p.text.toList ≠ []) (hp : p.pieces = first :: rest) :
    p.components = leadComponent first :: rest.filterMap pieceComponent? := by
  unfold components
  rw [show splitBy (· == '/') p.text.toList = first :: rest from hp]
  simp only []
  -- An empty piece and a dot are read in a way of their own if they come first.
  split
  · rename_i rest' heq
    obtain ⟨rfl, rfl⟩ := List.cons_eq_cons.mp heq
    rw [if_pos (isAbsolute_of_pieces hne hp)]
    rfl
  · rename_i rest' heq
    obtain ⟨rfl, rfl⟩ := List.cons_eq_cons.mp heq
    rfl
  · rename_i hnil hdot
    rw [List.filterMap_cons_some (pieceComponent?_of_ne ?_ ?_)]
    · rintro rfl
      exact hnil rest rfl
    · rintro rfl
      exact hdot rest rfl

theorem components_of_text_eq_nil {p : Path} (h : p.text.toList = []) : p.components = [] := by
  rw [components, h, splitBy_nil]
  simp [isAbsolute, h]

/-! ### Writing components down -/

/-- Components as a path can have them: only the first may be none that stands behind
others. -/
def WellFormed : List Component → Prop
  | [] => True
  | first :: rest => (first = .root ∨ first = .current ∨ first.IsStep) ∧ ∀ c ∈ rest, c.IsStep

theorem WellFormed.tail_isStep {cs rest : List Component} (h : WellFormed (cs ++ rest))
    (hne : cs ≠ []) : ∀ c ∈ rest, c.IsStep := by
  obtain ⟨first, others, rfl⟩ := List.exists_cons_of_ne_nil hne
  exact fun c hc => h.2 c (List.mem_append_right _ hc)

theorem WellFormed.of_append {cs ds : List Component} (h : WellFormed (cs ++ ds)) :
    WellFormed cs := by
  cases cs with
  | nil => trivial
  | cons first rest => exact ⟨h.1, fun c hc => h.2 c (List.mem_append_left _ hc)⟩

theorem WellFormed.concat {cs : List Component} {c : Component} (h : WellFormed cs)
    (hc : c.IsStep) : WellFormed (cs ++ [c]) := by
  cases cs with
  | nil => exact ⟨.inr (.inr hc), by nofun⟩
  | cons first rest =>
    refine ⟨h.1, fun d hd => ?_⟩
    rcases List.mem_append.mp hd with hd | hd
    · exact h.2 d hd
    · rw [List.mem_singleton.mp hd]
      exact hc

theorem leadComponent_cases {piece : List Char} (h : '/' ∉ piece) :
    leadComponent piece = .root ∨ leadComponent piece = .current
      ∨ (leadComponent piece).IsStep := by
  by_cases hnil : piece = []
  · subst hnil
    exact .inl rfl
  · by_cases hdot : piece = ['.']
    · subst hdot
      exact .inr (.inl rfl)
    · exact .inr (.inr (isStep_of_pieceComponent? h (pieceComponent?_of_ne hnil hdot)))

theorem wellFormed_components (p : Path) : WellFormed p.components := by
  by_cases hne : p.text.toList = []
  · rw [components_of_text_eq_nil hne]
    trivial
  · obtain ⟨first, rest, hp⟩ := List.exists_cons_of_ne_nil (splitBy_ne_nil (· == '/') p.text.toList)
    have hmem : ∀ piece ∈ first :: rest, '/' ∉ piece := by
      intro piece hpiece
      exact slash_notMem_of_mem_pieces (p := p) (by rw [pieces, hp]; exact hpiece)
    rw [components_eq hne hp]
    refine ⟨leadComponent_cases (hmem first List.mem_cons_self), fun c hc => ?_⟩
    obtain ⟨piece, hpiece, hc⟩ := List.mem_filterMap.mp hc
    exact isStep_of_pieceComponent? (hmem piece (List.mem_cons_of_mem _ hpiece)) hc

/-- The components of a path up to some step are well-formed. -/
theorem wellFormed_step {p : Path} {ds rest : List Component} {c : Component}
    (h : p.components = ds ++ c :: rest) : WellFormed (ds ++ [c]) := by
  have hwf := wellFormed_components p
  rw [h, List.append_cons] at hwf
  exact hwf.of_append

theorem toList_text_ofComponents {cs : List Component} (h : cs.head? ≠ some .root) :
    (ofComponents cs).text.toList = ['/'].intercalate (cs.map (·.text.toList)) := by
  unfold ofComponents
  split
  · simp at h
  · rw [String.toList_intercalate, List.map_map]
    rfl

theorem toList_text_ofComponents_root (cs : List Component) :
    (ofComponents (.root :: cs)).text.toList
      = '/' :: ['/'].intercalate (cs.map (·.text.toList)) := by
  rw [ofComponents, String.toList_append, String.toList_intercalate, List.map_map]
  rfl

theorem filterMap_pieceComponent? {cs : List Component} (h : ∀ c ∈ cs, c.IsStep) :
    (cs.map (·.text.toList)).filterMap pieceComponent? = cs := by
  rw [List.filterMap_map]
  calc cs.filterMap (pieceComponent? ∘ fun c => c.text.toList)
      = cs.filterMap some := List.filterMap_congr fun c hc => (h c hc).2
    _ = cs := List.filterMap_some

theorem components_ofComponents_of_lead {first : Component} {rest : List Component}
    (hlead : leadComponent first.text.toList = first) (hne : first.text.toList ≠ [])
    (hslash : '/' ∉ first.text.toList) (hrest : ∀ c ∈ rest, c.IsStep) :
    (ofComponents (first :: rest)).components = first :: rest := by
  have hroot : (first :: rest).head? ≠ some .root := by
    rw [List.head?_cons, Ne, Option.some_inj]
    rintro rfl
    exact hslash (by decide)
  have htext := toList_text_ofComponents hroot
  have hpieces : (ofComponents (first :: rest)).pieces
      = first.text.toList :: rest.map (·.text.toList) := by
    rw [pieces, htext]
    refine splitBy_intercalate (List.cons_ne_nil _ _) fun piece hpiece => ?_
    rcases List.mem_cons.mp hpiece with rfl | hpiece
    · exact hslash
    · obtain ⟨c, hc, rfl⟩ := List.mem_map.mp hpiece
      exact (hrest c hc).1
  have htext_ne : (ofComponents (first :: rest)).text.toList ≠ [] := by
    intro hnil
    rw [pieces, hnil, splitBy_nil, List.cons_eq_cons] at hpieces
    exact hne hpieces.1.symm
  rw [components_eq htext_ne hpieces, hlead, filterMap_pieceComponent? hrest]

/-- The path of some components has those components. -/
theorem components_ofComponents {cs : List Component} (h : WellFormed cs) :
    (ofComponents cs).components = cs := by
  match cs with
  | [] => exact components_of_text_eq_nil rfl
  | .root :: rest =>
    -- The root is written as a slash in front, which leaves an empty piece before it.
    have hrest := h.2
    have htext := toList_text_ofComponents_root rest
    have hpieces : (ofComponents (.root :: rest)).pieces
        = [] :: splitBy (· == '/') (['/'].intercalate (rest.map (·.text.toList))) := by
      rw [pieces, htext]
      exact splitBy_append_cons (by rfl) [] _
    rw [components_eq (by rw [htext]; exact List.cons_ne_nil _ _) hpieces]
    by_cases hnil : rest = []
    · subst hnil
      rfl
    · rw [splitBy_intercalate (by simpa using hnil), filterMap_pieceComponent? hrest]
      · rfl
      · intro piece hpiece
        obtain ⟨c, hc, rfl⟩ := List.mem_map.mp hpiece
        exact (hrest c hc).1
  | .current :: rest => exact components_ofComponents_of_lead rfl (by decide) (by decide) h.2
  | .parent :: rest => exact components_ofComponents_of_lead rfl (by decide) (by decide) h.2
  | .normal name :: rest =>
    obtain ⟨hfirst, hrest⟩ := h
    have hstep : (Component.normal name).IsStep := by simpa using hfirst
    exact components_ofComponents_of_lead (leadComponent_of_isStep hstep) hstep.text_ne_nil
      hstep.1 hrest

/-! ### Joining a name -/

theorem text_eq_nil_iff {p : Path} : p.text.toList = [] ↔ p.components = [] := by
  refine ⟨components_of_text_eq_nil, fun h => ?_⟩
  by_contra hne
  obtain ⟨first, rest, hp⟩ := List.exists_cons_of_ne_nil (splitBy_ne_nil (· == '/') p.text.toList)
  rw [components_eq hne hp] at h
  exact List.cons_ne_nil _ _ h

theorem join_of_isStep {base : Path} {c : Component} (hbase : base.components ≠ [])
    (hc : c.IsStep) :
    (base.join c.text).text.toList =
      if base.text.toList.getLast? = some '/' then base.text.toList ++ c.text.toList
      else base.text.toList ++ '/' :: c.text.toList := by
  have hhead : (c.text.toList.head? == some '/') = false := by
    obtain ⟨d, ds, hds⟩ := List.exists_cons_of_ne_nil hc.text_ne_nil
    have hslash := hc.1
    rw [hds, List.mem_cons, not_or] at hslash
    rw [hds, List.head?_cons]
    simpa using fun h => hslash.1 h.symm
  have hempty : base.text.isEmpty = false := by
    rw [Bool.eq_false_iff, Ne, String.isEmpty_iff, ← String.toList_eq_nil_iff, text_eq_nil_iff]
    exact hbase
  rw [join, hhead, hempty, Bool.or_false, if_neg Bool.false_ne_true]
  by_cases hlast : base.text.toList.getLast? = some '/'
  · simp [hlast]
  · rw [if_neg hlast, if_neg (by simpa using hlast)]
    simp

theorem join_of_components_eq_nil {base : Path} {c : Component} (hbase : base.components = []) :
    base.join c.text = ofComponents [c] := by
  have hempty : base.text.isEmpty = true := by
    rw [String.isEmpty_iff, ← String.toList_eq_nil_iff, text_eq_nil_iff]
    exact hbase
  rw [join, hempty, Bool.or_true, if_pos rfl]
  cases c <;> rfl

/-- To join a name is to add a component at the end. -/
theorem components_join {base : Path} {c : Component} (h : WellFormed (base.components ++ [c])) :
    (base.join c.text).components = base.components ++ [c] := by
  by_cases hbase : base.components = []
  · rw [hbase, List.nil_append] at h
    rw [join_of_components_eq_nil hbase, components_ofComponents h, hbase, List.nil_append]
  · have hc : c.IsStep := h.tail_isStep hbase c (List.mem_singleton_self c)
    have hname : splitBy (· == '/') c.text.toList = [c.text.toList] :=
      splitBy_eq_singleton fun d hd => by simpa using ne_of_mem_of_not_mem hd hc.1
    have hne : base.text.toList ≠ [] := fun hnil => hbase (text_eq_nil_iff.mp hnil)
    have htext := join_of_isStep hbase hc
    have hjoin_ne : (base.join c.text).text.toList ≠ [] := by
      rw [htext]
      split <;> simp [hne]
    by_cases hlast : base.text.toList.getLast? = some '/'
    · -- The last piece of the base is empty, and the name takes its place.
      obtain ⟨front, hfront⟩ : ∃ front, base.text.toList = front ++ ['/'] :=
        List.getLast?_eq_some_iff.mp hlast
      obtain ⟨first, rest, hsplit⟩ :=
        List.exists_cons_of_ne_nil (splitBy_ne_nil (· == '/') front)
      have hbase_pieces : base.pieces = first :: (rest ++ [[]]) := by
        rw [pieces, hfront, splitBy_append_cons (by rfl), hsplit]
        rfl
      have hjoin_pieces : (base.join c.text).pieces = first :: (rest ++ [c.text.toList]) := by
        rw [pieces, htext, if_pos hlast, hfront, List.append_assoc, List.singleton_append,
          splitBy_append_cons (by rfl), hsplit, hname]
        rfl
      rw [components_eq hjoin_ne hjoin_pieces, components_eq hne hbase_pieces,
        List.filterMap_append, List.filterMap_append, List.filterMap_cons_some hc.2,
        show [[]].filterMap pieceComponent? = [] from rfl, List.append_nil]
      rfl
    · -- The name becomes a piece behind those of the base.
      obtain ⟨first, rest, hsplit⟩ :=
        List.exists_cons_of_ne_nil (splitBy_ne_nil (· == '/') base.text.toList)
      have hjoin_pieces : (base.join c.text).pieces = first :: (rest ++ [c.text.toList]) := by
        rw [pieces, htext, if_neg hlast, splitBy_append_cons (by rfl), hsplit, hname]
        rfl
      rw [components_eq hjoin_ne hjoin_pieces, components_eq hne hsplit,
        List.filterMap_append, List.filterMap_cons_some hc.2]
      rfl

/-! ### Plain paths -/

/-- A path that is written as its components are. -/
def IsPlain (p : Path) : Prop := ofComponents p.components = p

instance (p : Path) : Decidable p.IsPlain :=
  inferInstanceAs (Decidable (ofComponents p.components = p))

theorem IsPlain.eq_of_same {p q : Path} (hp : p.IsPlain) (hq : q.IsPlain)
    (h : p.components = q.components) : p = q := by
  rw [← hp, h, hq]

theorem isPlain_ofComponents {cs : List Component} (h : WellFormed cs) :
    (ofComponents cs).IsPlain := by
  rw [IsPlain, components_ofComponents h]

theorem eq_of_toList_text_eq {p q : Path} (h : p.text.toList = q.text.toList) : p = q := by
  cases p
  cases q
  rw [mk.injEq]
  exact String.toList_inj.mp h

/-- Paths with different components are written differently. -/
theorem nodup_text {α : Type} (path : α → Path) {l : List α}
    (h : (l.map fun a => (path a).components).Nodup) : (l.map fun a => (path a).text).Nodup := by
  refine List.pairwise_map.mpr ((List.pairwise_map.mp h).imp fun hne htext => hne ?_)
  exact congrArg components (eq_of_toList_text_eq (congrArg String.toList htext))

theorem toList_text_ofComponents_append {cs : List Component} {c : Component} (hcs : cs ≠ [])
    (hroot : cs ≠ [.root]) :
    (ofComponents (cs ++ [c])).text.toList
      = (ofComponents cs).text.toList ++ '/' :: c.text.toList := by
  match cs with
  | .root :: rest =>
    have hrest : rest.map (·.text.toList) ≠ [] := by simpa using hroot
    rw [List.cons_append, toList_text_ofComponents_root, toList_text_ofComponents_root,
      List.map_append, List.map_singleton, intercalate_append hrest (List.cons_ne_nil _ _),
      List.intercalate_singleton, List.cons_append]
  | .current :: rest | .parent :: rest | .normal _ :: rest =>
    rw [toList_text_ofComponents (by simp), toList_text_ofComponents (by simp),
      List.map_append, List.map_singleton, intercalate_append (by simp) (List.cons_ne_nil _ _),
      List.intercalate_singleton]

/-- Only the root ends with a slash. -/
theorem getLast?_text_ofComponents {cs : List Component} (h : WellFormed cs)
    (hroot : cs ≠ [.root]) : (ofComponents cs).text.toList.getLast? ≠ some '/' := by
  rcases List.eq_nil_or_concat cs with rfl | ⟨init, c, rfl⟩
  · simp [ofComponents]
  · rw [List.concat_eq_append] at h hroot ⊢
    have hslash : '/' ∉ c.text.toList ∧ c.text.toList ≠ [] := by
      by_cases hinit : init = []
      · subst hinit
        rcases h.1 with rfl | rfl | hc
        · exact absurd rfl hroot
        · exact ⟨by decide, by decide⟩
        · exact ⟨hc.1, hc.text_ne_nil⟩
      · have hc := h.tail_isStep hinit c (List.mem_singleton_self c)
        exact ⟨hc.1, hc.text_ne_nil⟩
    have hlast : (ofComponents (init ++ [c])).text.toList.getLast?
        = c.text.toList.getLast? := by
      match init with
      | .root :: rest =>
        rw [List.cons_append, toList_text_ofComponents_root, List.map_append,
          List.map_singleton, List.getLast?_cons, getLast?_intercalate hslash.2,
          List.getLast?_eq_some_getLast hslash.2]
        rfl
      | [] =>
        rw [List.nil_append, toList_text_ofComponents, List.map_singleton,
          List.intercalate_singleton]
        simpa using hroot
      | .current :: rest | .parent :: rest | .normal _ :: rest =>
        rw [toList_text_ofComponents (by simp), List.map_append, List.map_singleton,
          getLast?_intercalate hslash.2]
    rw [hlast]
    exact fun h => hslash.1 (List.mem_of_getLast? h)

/-- To join a name to a plain path is to write the component behind the others. -/
theorem join_ofComponents {cs : List Component} {c : Component} (h : WellFormed (cs ++ [c])) :
    (ofComponents cs).join c.text = ofComponents (cs ++ [c]) := by
  by_cases hcs : cs = []
  · subst hcs
    exact join_of_components_eq_nil (components_ofComponents trivial)
  · have hc : c.IsStep := h.tail_isStep hcs c (List.mem_singleton_self c)
    have hbase : (ofComponents cs).components ≠ [] := by
      rwa [components_ofComponents h.of_append]
    have htext := join_of_isStep hbase hc
    refine eq_of_toList_text_eq ?_
    -- The root ends with a slash already, and joining writes no second one.
    by_cases hroot : cs = [.root]
    · subst hroot
      have hslash : (ofComponents [.root]).text.toList = ['/'] := toList_text_ofComponents_root []
      rw [htext, hslash, if_pos (show ['/'].getLast? = some '/' from rfl), List.singleton_append,
        List.singleton_append, toList_text_ofComponents_root, List.map_singleton,
        List.intercalate_singleton]
    · rw [htext, if_neg (getLast?_text_ofComponents h.of_append hroot),
        toList_text_ofComponents_append hcs hroot]

theorem IsPlain.join {base : Path} {c : Component} (hbase : base.IsPlain)
    (h : WellFormed (base.components ++ [c])) : (base.join c.text).IsPlain := by
  rw [IsPlain, components_join h, ← join_ofComponents h, hbase]

/-! ### Going down -/

/-- The path that some components lead to from another path. -/
def descend (base : Path) (cs : List Component) : Path :=
  cs.foldl (fun p c => p.join c.text) base

theorem descend_cons (base : Path) (c : Component) (cs : List Component) :
    base.descend (c :: cs) = (base.join c.text).descend cs := rfl

theorem components_descend {base : Path} {cs : List Component}
    (h : WellFormed (base.components ++ cs)) :
    (base.descend cs).components = base.components ++ cs := by
  induction cs generalizing base with
  | nil => exact (List.append_nil _).symm
  | cons c cs ih =>
    rw [List.append_cons] at h ⊢
    have hjoin := components_join h.of_append
    rw [← hjoin] at h ⊢
    exact ih h

theorem IsPlain.descend {base : Path} {cs : List Component} (hbase : base.IsPlain)
    (h : WellFormed (base.components ++ cs)) : (base.descend cs).IsPlain := by
  induction cs generalizing base with
  | nil => exact hbase
  | cons c cs ih =>
    rw [List.append_cons] at h
    refine ih (hbase.join h.of_append) ?_
    rwa [components_join h.of_append]

/-! ### Normal forms are plain -/

theorem wellFormed_normalStep {stack : List Component} {c : Component}
    (h : WellFormed stack.reverse) (hc : c = .root ∨ c = .current ∨ c.IsStep) :
    WellFormed (normalStep stack c).reverse := by
  match c with
  | .root => exact ⟨.inl rfl, by nofun⟩
  | .current => exact h
  | .parent =>
    match stack with
    | .normal _ :: rest =>
      rw [List.reverse_cons] at h
      exact h.of_append
    | .root :: _ => exact h
    | [] => exact ⟨.inr (.inr Component.isStep_parent), by nofun⟩
    | .current :: _ | .parent :: _ =>
      rw [normalStep, List.reverse_cons]
      · exact h.concat Component.isStep_parent
      all_goals simp
  | .normal name =>
    rw [normalStep, List.reverse_cons]
    exact h.concat (by simpa using hc)

theorem wellFormed_normalComponents {cs : List Component} (h : WellFormed cs) :
    WellFormed (normalComponents cs) := by
  have hcases : ∀ c ∈ cs, c = .root ∨ c = .current ∨ c.IsStep := by
    intro c hc
    cases cs with
    | nil => exact absurd hc List.not_mem_nil
    | cons first rest =>
      rcases List.mem_cons.mp hc with rfl | hc
      · exact h.1
      · exact .inr (.inr (h.2 c hc))
  -- The stack grows at its head, so what stays well-formed is its reverse.
  have hfold : ∀ (ds stack : List Component), (∀ c ∈ ds, c ∈ cs) → WellFormed stack.reverse →
      WellFormed (ds.foldl normalStep stack).reverse := by
    intro ds
    induction ds with
    | nil => exact fun stack _ hstack => hstack
    | cons d ds ih =>
      intro stack hds hstack
      refine ih _ (fun c hc => hds c (List.mem_cons_of_mem _ hc)) ?_
      exact wellFormed_normalStep hstack (hcases d (hds d List.mem_cons_self))
  exact hfold cs [] (fun _ hc => hc) trivial

theorem isPlain_normalize (p : Path) : p.normalize.IsPlain :=
  isPlain_ofComponents (wellFormed_normalComponents (wellFormed_components p))

theorem isPlain_resolveIn (root : Path) (text : String) : (resolveIn root text).IsPlain := by
  rw [resolveIn]
  split
  · exact isPlain_normalize _
  · exact isPlain_normalize _

/-! ### What lies below -/

theorem components_ne_of_lt {p q : Path} (h : p.compare q = .lt) :
    p.components ≠ q.components := by
  intro heq
  rw [compare_eq_iff.mpr heq] at h
  exact absurd h (by decide)

/-- In a list in the order of paths no two elements have the same components. -/
theorem eq_of_pairwise_lt {α : Type} (path : α → Path) {l : List α}
    (h : l.Pairwise fun a b => (path a).compare (path b) = .lt) {a b : α} (ha : a ∈ l)
    (hb : b ∈ l) (heq : (path a).components = (path b).components) : a = b := by
  have hnodup : (l.map fun a => (path a).components).Nodup :=
    List.pairwise_map.mpr (h.imp components_ne_of_lt)
  exact List.inj_on_of_nodup_map hnodup ha hb heq

theorem compareComponents_append_left (ds as bs : List Component) :
    compareComponents (ds ++ as) (ds ++ bs) = compareComponents as bs := by
  induction ds with
  | nil => rfl
  | cons d ds ih =>
    have hself : d.compare d = .eq := Std.ReflCmp.compare_self
    rw [List.cons_append, List.cons_append, compareComponents, hself, ih]
    rfl

theorem under?_eq_some_iff {root p : Path} {rest : List Component} :
    under? root p = some rest ↔ p.components = root.components ++ rest := by
  rw [under?]
  constructor
  · intro h
    obtain ⟨hlead, hrest⟩ : root.components.isPrefixOf p.components = true
        ∧ p.components.drop root.components.length = rest := by simpa using h
    obtain ⟨below, hbelow⟩ := List.isPrefixOf_iff_prefix.mp hlead
    rw [← hbelow, List.drop_left] at hrest
    rw [← hbelow, hrest]
  · intro h
    rw [h, if_pos (List.isPrefixOf_iff_prefix.mpr (List.prefix_append _ _)), List.drop_left]

theorem isUnder_iff {p root : Path} :
    p.isUnder root = true ↔ ∃ rest, p.components = root.components ++ rest := by
  rw [isUnder, Option.isSome_iff_exists]
  simp only [under?_eq_some_iff]

end Path

end SourceRetrieval
