/-
What normal forms look like, and how they go with joining.

* `exists_components_normalize` — the normal form of a path is the root, or a run of `..`, and
  names behind it;
* `undoes_normalComponents` — it is what is left of the path when dots go, and steps up take the
  names before them with them (`Undoes`);
* `normalComponents_normalComponents_append` — components may be brought into normal form
  before others are added;
* `normalComponents_join` — to join a text, relative or not, is to add its steps, as far as
  normal forms can tell;
* `normalize_laws` — so a path may be normalized before another one is joined to it.

Design notes: the shape is an invariant of the stack on which the normal form is built.  Its
bottom tells an absolute path from a relative one and is never popped, so nothing climbs above
the root.
-/
import Mathlib.Logic.Relation
import SourceRetrieval.Proofs.Path.Relative

namespace SourceRetrieval.Path

open Text

variable {base : Path} {stack : List Component} {rooted : Bool}

/-! ### The shape of normal forms -/

/-- What a normal form begins with: the root, or a number of steps up. -/
def bottom (rooted : Bool) (ups : Nat) : List Component :=
  if rooted then [.root] else List.replicate ups .parent

/-- A stack holds names on top of a root or of steps up. -/
def IsStacked (rooted : Bool) (stack : List Component) : Prop :=
  ∃ (ups : Nat) (names : List String), stack = names.map .normal ++ bottom rooted ups

theorem isStacked_nil : IsStacked false [] := ⟨0, [], rfl⟩

theorem isStacked_root : IsStacked true [.root] := ⟨0, [], rfl⟩

/-- One more step up undoes nothing where there are no names. -/
theorem isStacked_normalStep_bottom (rooted : Bool) (ups : Nat) :
    IsStacked rooted (normalStep (bottom rooted ups) .parent) := by
  cases rooted with
  | true => exact isStacked_root
  | false =>
    have hpush : normalStep (List.replicate ups .parent) .parent
        = List.replicate (ups + 1) .parent := by
      cases ups with
      | zero => rfl
      | succ ups => rfl
    exact ⟨ups + 1, [], hpush⟩

/-- Every component but a second root keeps the shape of a stack. -/
theorem IsStacked.normalStep {c : Component} (h : IsStacked rooted stack)
    (hc : c = .root → rooted = true) : IsStacked rooted (normalStep stack c) := by
  obtain ⟨ups, names, rfl⟩ := h
  cases c with
  | root =>
    rw [hc rfl]
    exact isStacked_root
  | current => exact ⟨ups, names, rfl⟩
  | normal name => exact ⟨ups, name :: names, rfl⟩
  | parent =>
    cases names with
    | nil => exact isStacked_normalStep_bottom rooted ups
    | cons name names => exact ⟨ups, names, rfl⟩

theorem IsStacked.foldl {cs : List Component} (h : IsStacked rooted stack)
    (hcs : ∀ c ∈ cs, c = .root → rooted = true) :
    IsStacked rooted (cs.foldl Path.normalStep stack) := by
  induction cs generalizing stack with
  | nil => exact h
  | cons c cs ih =>
    obtain ⟨hc, hcs⟩ := List.forall_mem_cons.mp hcs
    exact ih (h.normalStep hc) hcs

/-- A component of a path is a step, unless it is the root or a dot in front. -/
theorem isStep_or_of_mem_components {p : Path} {c : Component} (h : c ∈ p.components) :
    c.IsStep ∨ p.components.head? = some c ∧ (c = .root ∨ c = .current) := by
  have hwf := wellFormed_components p
  obtain ⟨first, rest, hcomponents⟩ := List.exists_cons_of_ne_nil (List.ne_nil_of_mem h)
  rw [hcomponents] at h hwf ⊢
  rcases List.mem_cons.mp h with rfl | hrest
  · rcases hwf.1 with hroot | hcurrent | hstep
    · exact .inr ⟨rfl, .inl hroot⟩
    · exact .inr ⟨rfl, .inr hcurrent⟩
    · exact .inl hstep
  · exact .inl (hwf.2 c hrest)

theorem root_not_mem_components {p : Path} (h : p.isAbsolute = false) : .root ∉ p.components := by
  intro hroot
  rcases isStep_or_of_mem_components hroot with hstep | ⟨hhead, -⟩
  · exact absurd hstep (by decide)
  · rw [← isAbsolute_iff_head?, h] at hhead
    cases hhead

/-- A name that is a component is neither empty nor one of the two that are made of dots. -/
theorem name_of_mem_components {p : Path} {name : String} (h : .normal name ∈ p.components) :
    name ≠ "" ∧ name ≠ "." ∧ name ≠ ".." ∧ '/' ∉ name.toList := by
  have hstep : (Component.normal name).IsStep := by
    rcases isStep_or_of_mem_components h with hstep | ⟨-, hroot | hcurrent⟩
    · exact hstep
    · cases hroot
    · cases hcurrent
  refine ⟨?_, ?_, ?_, hstep.1⟩
  all_goals
    rintro rfl
    exact absurd hstep (by decide)

/-- The normal form of a path is the root, or a run of `..`, and names behind it. -/
theorem exists_components_normalize (p : Path) :
    ∃ (ups : Nat) (names : List String),
      p.normalize.components = bottom p.isAbsolute ups ++ names.map .normal := by
  have hstacked : IsStacked p.isAbsolute (p.components.foldl normalStep []) := by
    cases habsolute : p.isAbsolute with
    | false =>
      refine isStacked_nil.foldl fun c hc hroot => ?_
      exact absurd (hroot ▸ hc) (root_not_mem_components habsolute)
    | true =>
      obtain ⟨rest, hrest⟩ := List.head?_eq_some_iff.mp (isAbsolute_iff_head?.mp habsolute)
      rw [hrest]
      exact isStacked_root.foldl fun _ _ _ => rfl
  obtain ⟨ups, names, hstack⟩ := hstacked
  have hbottom : (bottom p.isAbsolute ups).reverse = bottom p.isAbsolute ups := by
    rw [bottom]
    split
    · rfl
    · exact List.reverse_replicate
  refine ⟨ups, names.reverse, ?_⟩
  rw [components_normalize, normalComponents, hstack, List.reverse_append, hbottom,
    List.map_reverse]

theorem isAbsolute_normalize_eq (p : Path) : p.normalize.isAbsolute = p.isAbsolute := by
  cases habsolute : p.isAbsolute with
  | true => exact isAbsolute_normalize habsolute
  | false =>
    -- Neither a step up nor a name is the root.
    obtain ⟨ups, names, hcomponents⟩ := exists_components_normalize p
    rw [Bool.eq_false_iff, Ne, isAbsolute_iff_head?, hcomponents, habsolute]
    cases ups with
    | succ ups => nofun
    | zero =>
      cases names with
      | nil => nofun
      | cons name names => nofun

/-! ### What normal forms keep -/

/-- What goes on the way to a normal form: a dot, a step up together with the name before it, or a
step up at the root.  All else stays, in its order. -/
inductive Undoes : List Component → List Component → Prop where
  | dot (front rest : List Component) : Undoes (front ++ .current :: rest) (front ++ rest)
  | name (front : List Component) (name : String) (rest : List Component) :
    Undoes (front ++ .normal name :: .parent :: rest) (front ++ rest)
  | aboveRoot (rest : List Component) : Undoes (.root :: .parent :: rest) (.root :: rest)

/-- Nothing but the root is below it on a stack. -/
theorem IsStacked.of_cons_root (h : IsStacked rooted (.root :: stack)) : stack = [] := by
  obtain ⟨ups, names, hstack⟩ := h
  cases names with
  | cons name names => cases hstack
  | nil =>
    cases rooted with
    | true => exact (List.cons_eq_cons.mp hstack).2
    | false => cases ups <;> cases hstack

/-- To add a component to a stack is to undo at most one before it. -/
theorem undoes_normalStep {c : Component} (h : IsStacked rooted stack) (hc : c ≠ .root)
    (rest : List Component) :
    Relation.ReflTransGen Undoes (stack.reverse ++ c :: rest)
      ((normalStep stack c).reverse ++ rest) := by
  have hpush : Relation.ReflTransGen Undoes (stack.reverse ++ c :: rest)
      ((c :: stack).reverse ++ rest) := by
    rw [List.reverse_cons, List.append_assoc]
    exact .refl
  cases c with
  | root => exact absurd rfl hc
  | current => exact .single (.dot stack.reverse rest)
  | normal name => exact hpush
  | parent =>
    cases stack with
    | nil => exact hpush
    | cons last stack =>
      cases last with
      | root =>
        obtain rfl := h.of_cons_root
        exact .single (.aboveRoot rest)
      | normal name =>
        rw [List.reverse_cons, List.append_assoc]
        exact .single (.name stack.reverse name rest)
      | current => exact hpush
      | parent => exact hpush

theorem undoes_foldl {cs : List Component} (h : IsStacked rooted stack) (hcs : .root ∉ cs) :
    Relation.ReflTransGen Undoes (stack.reverse ++ cs) (cs.foldl normalStep stack).reverse := by
  induction cs generalizing stack with
  | nil =>
    rw [List.append_nil]
    exact .refl
  | cons c cs ih =>
    obtain ⟨hc, hcs⟩ := not_or.mp (List.mem_cons.not.mp hcs)
    exact (undoes_normalStep h (Ne.symm hc) cs).trans
      (ih (h.normalStep fun hroot => absurd hroot.symm hc) hcs)

/-- The normal form is what is left when dots go, and steps up take the names before them with
them. -/
theorem undoes_normalComponents (p : Path) :
    Relation.ReflTransGen Undoes p.components (normalComponents p.components) := by
  cases habsolute : p.isAbsolute with
  | false => exact undoes_foldl isStacked_nil (root_not_mem_components habsolute)
  | true =>
    obtain ⟨rest, hrest⟩ := List.head?_eq_some_iff.mp (isAbsolute_iff_head?.mp habsolute)
    have hwf := wellFormed_components p
    rw [hrest] at hwf ⊢
    exact undoes_foldl isStacked_root fun hroot => absurd (hwf.2 _ hroot) (by decide)

/-! ### Joining -/

theorem normalComponents_append (cs ds : List Component) :
    normalComponents (cs ++ ds)
      = (ds.foldl normalStep (normalComponents cs).reverse).reverse := by
  rw [normalComponents, List.foldl_append, normalComponents, List.reverse_reverse]

/-- Components may be brought into normal form before others are added. -/
theorem normalComponents_normalComponents_append (cs ds : List Component) :
    normalComponents (normalComponents cs ++ ds) = normalComponents (cs ++ ds) := by
  have hsettled : normalComponents (normalComponents cs) = normalComponents cs :=
    isSettled_normalComponents cs
  rw [normalComponents_append, hsettled, normalComponents_append]

/-- The components that the pieces of a text add behind a path. -/
def steps (name : String) : List Component :=
  (splitBy (· == '/') name.toList).filterMap pieceComponent?

/-- A dot in front is the only component that a relative path has besides its steps. -/
theorem normalComponents_of_relative {name : String} (h : name.toList.head? ≠ some '/') :
    normalComponents (Path.mk name).components = normalComponents (steps name) := by
  by_cases hne : name.toList = []
  · rw [components_of_text_eq_nil hne, steps, hne]
    rfl
  · obtain ⟨first, rest, hsplit⟩ :=
      List.exists_cons_of_ne_nil (splitBy_ne_nil (· == '/') name.toList)
    have hfirst : first ≠ [] := by
      intro hnil
      have habsolute := (isAbsolute_iff_of_pieces (p := ⟨name⟩) hne hsplit).mpr hnil
      exact h (by simpa [isAbsolute] using habsolute)
    rw [components_eq (p := ⟨name⟩) hne hsplit, steps, hsplit]
    by_cases hdot : first = ['.']
    · subst hdot
      rfl
    · rw [List.filterMap_cons_some (pieceComponent?_of_ne hfirst hdot)]

/-- To join a relative text is to add its steps, as far as the normal form can tell. -/
theorem normalComponents_join {name : String} (h : name.toList.head? ≠ some '/') :
    normalComponents (base.join name).components
      = normalComponents (base.components ++ steps name) := by
  by_cases hbase : base.components = []
  · have hempty : base.text.isEmpty = true := by
      rw [String.isEmpty_iff, ← String.toList_eq_nil_iff]
      exact text_eq_nil_iff.mpr hbase
    rw [join, hempty, Bool.or_true, if_pos rfl, hbase, List.nil_append]
    exact normalComponents_of_relative h
  · rw [components_join_text hbase h, steps]

/-- A path may be normalized before a text is joined to it. -/
theorem normalize_join_normalize (base : Path) (name : String) :
    (base.normalize.join name).normalize = (base.join name).normalize := by
  by_cases h : name.toList.head? = some '/'
  · have habsolute : ∀ p : Path, p.join name = ⟨name⟩ := by
      intro p
      rw [join, h]
      rfl
    rw [habsolute, habsolute]
  · rw [normalize, normalComponents_join h, components_normalize,
      normalComponents_normalComponents_append, normalize, normalComponents_join h]

/-- A normal form is its own normal form.  It is written as its components are: the root if the
path is absolute, else a run of `..`, and then names, so it has no `.` and no `..` behind a name
or the root; and these are the components of the path less the dots, and less each `..` with the
name before it.  Joining does not depend on whether a path has been normalized before. -/
theorem normalize_laws (a b : Path) :
    a.normalize.normalize = a.normalize
      ∧ a.normalize.isAbsolute = a.isAbsolute
      ∧ a.normalize.IsPlain
      ∧ (∃ (ups : Nat) (names : List String),
        a.normalize.components
            = (if a.isAbsolute then [.root] else List.replicate ups .parent) ++ names.map .normal
          ∧ ∀ name ∈ names, name ≠ "" ∧ name ≠ "." ∧ name ≠ ".." ∧ '/' ∉ name.toList)
      ∧ Relation.ReflTransGen Undoes a.components a.normalize.components
      ∧ (a.join b.text).normalize = (a.normalize.join b.text).normalize := by
  obtain ⟨ups, names, hcomponents⟩ := exists_components_normalize a
  have hnames : ∀ name ∈ names, name ≠ "" ∧ name ≠ "." ∧ name ≠ ".." ∧ '/' ∉ name.toList := by
    intro name hname
    refine name_of_mem_components (p := a.normalize) ?_
    rw [hcomponents]
    exact List.mem_append_right _ (List.mem_map_of_mem hname)
  have hundoes : Relation.ReflTransGen Undoes a.components a.normalize.components := by
    rw [components_normalize]
    exact undoes_normalComponents a
  exact ⟨normalize_normalize a, isAbsolute_normalize_eq a, isPlain_normalize a,
    ⟨ups, names, hcomponents, hnames⟩, hundoes, (normalize_join_normalize a b.text).symm⟩

/-- Of `/a/./b/../c` the names `a` and `c` are kept, and of these `../d` takes the last. -/
theorem normalize_laws_dots :
    (⟨"/a/./b/../c"⟩ : Path).normalize = ⟨"/a/c"⟩
      ∧ Relation.ReflTransGen Undoes
        [.root, .normal "a", .normal "b", .parent, .normal "c"] [.root, .normal "a", .normal "c"]
      ∧ ((⟨"/a/./b/../c"⟩ : Path).join "../d").normalize = ⟨"/a/d"⟩ := by
  obtain ⟨-, -, -, -, hundoes, hjoin⟩ := normalize_laws ⟨"/a/./b/../c"⟩ ⟨"../d"⟩
  have hnormal : (⟨"/a/./b/../c"⟩ : Path).normalize = ⟨"/a/c"⟩ := by decide
  have hbefore : (⟨"/a/./b/../c"⟩ : Path).components
      = [.root, .normal "a", .normal "b", .parent, .normal "c"] := by decide
  have hafter : (⟨"/a/c"⟩ : Path).components = [.root, .normal "a", .normal "c"] := by
    decide
  rw [hbefore, hnormal, hafter] at hundoes
  refine ⟨hnormal, hundoes, hjoin.trans ?_⟩
  rw [hnormal]
  decide

end SourceRetrieval.Path
