/-
From the findings in a text to its outline.

* `map_signature_foldl_mergeMethod` — of the methods found in bodies those are added to the
  functions whose name and line no function has yet, each once;
* `lists_foldl_listMethod` — a method is listed in a class of its owner's name;
* `isConsistent_toOutline` — the lists of an outline are in order and agree with each other;
* `outline_consistent` — so do those of the outline of any text, and no function is lost.

Design notes: methods are merged into the functions, functions listed in their classes and
traits added to the types that implement them, and each step changes entries in place, so
what one step has achieved has to be carried through the later ones.
-/
import SourceRetrieval.Proofs.Outline.Findings
import SourceRetrieval.Proofs.Text.Lines

namespace SourceRetrieval

open Text Outline

/-- What tells two functions apart. -/
def FunctionDecl.key (f : FunctionDecl) : String × Nat := (f.name, f.line)

/-- A function without its owner and without being exported, which are settled later. -/
def FunctionDecl.signature (f : FunctionDecl) : String × Nat × List String × Option String :=
  (f.name, f.line, f.parameters, f.returnType)

namespace Findings

/-- The methods found in bodies under a name and line that no function has, each once. -/
def newMethods (found : Findings) : List FunctionDecl :=
  distinctFrom FunctionDecl.key (found.functions.map FunctionDecl.key) found.methods

/-- The functions with the methods merged into them. -/
def allFunctions (found : Findings) : List FunctionDecl :=
  found.methods.foldl mergeMethod found.functions

/-- The classes with their methods and traits. -/
def allClasses (found : Findings) : List ClassDecl :=
  found.traits.foldl listTrait (found.allFunctions.foldl listMethod found.classes)

end Findings

namespace Outline

/-- Declarations are sorted by line, and every line is one of the text. -/
def InOrder {α : Type} (count : Nat) (line : α → Nat) (list : List α) : Prop :=
  list.Pairwise (fun a b => line a ≤ line b) ∧ ∀ x ∈ list, IsLine count (line x)

/-- A class of the name lists the method. -/
def Lists (classes : List ClassDecl) (owner name : String) : Prop :=
  ∃ c ∈ classes, c.name = owner ∧ name ∈ c.methods

/-- The lists of an outline are in order, without repetition, and agree with each other. -/
structure IsConsistent (count : Nat) (o : Outline) : Prop where
  functions : InOrder count FunctionDecl.line o.functions
  classes : InOrder count ClassDecl.line o.classes
  interfaces : InOrder count TypeDecl.line o.interfaces
  types : InOrder count TypeDecl.line o.types
  members : ∀ c ∈ o.classes, c.methods.Nodup ∧ c.properties.Nodup
  imports : o.imports.Nodup
  exports : o.exports.Nodup
  /-- Every method of a class is a function. -/
  known : ∀ c ∈ o.classes, ∀ name ∈ c.methods, ∃ f ∈ o.functions, f.name = name
  /-- Every function whose owner is a class is listed in a class of that name. -/
  owned : ∀ f ∈ o.functions, ∀ owner ∈ f.owner, (∃ c ∈ o.classes, c.name = owner) →
    Lists o.classes owner f.name

theorem isConsistent_empty (count : Nat) : IsConsistent count {} where
  functions := ⟨.nil, nofun⟩
  classes := ⟨.nil, nofun⟩
  interfaces := ⟨.nil, nofun⟩
  types := ⟨.nil, nofun⟩
  members := nofun
  imports := .nil
  exports := .nil
  known := nofun
  owned := nofun

/-! ### Changing one entry -/

section UpdateFirst

variable {α β : Type} {p : α → Bool} {change : α → α}

theorem map_updateFirst {g : α → β} (h : ∀ x, g (change x) = g x) (list : List α) :
    (updateFirst p change list).map g = list.map g := by
  induction list with
  | nil => rfl
  | cons x xs ih =>
    rw [updateFirst]
    split
    · rw [List.map_cons, List.map_cons, h]
    · rw [List.map_cons, List.map_cons, ih]

theorem forall_updateFirst {P : α → Prop} {list : List α} (h : ∀ x ∈ list, P x)
    (hchange : ∀ x, P x → P (change x)) : ∀ x ∈ updateFirst p change list, P x := by
  induction list with
  | nil => nofun
  | cons x xs ih =>
    obtain ⟨hx, hxs⟩ := List.forall_mem_cons.mp h
    rw [updateFirst]
    split
    · exact List.forall_mem_cons.mpr ⟨hchange x hx, hxs⟩
    · exact List.forall_mem_cons.mpr ⟨hx, ih hxs⟩

theorem exists_updateFirst {P : α → Prop} {list : List α} (h : ∃ x ∈ list, P x)
    (hchange : ∀ x, P x → P (change x)) : ∃ x ∈ updateFirst p change list, P x := by
  obtain ⟨x, hx, hPx⟩ := h
  induction list with
  | nil => cases hx
  | cons y ys ih =>
    rw [updateFirst]
    split
    · rcases List.mem_cons.mp hx with rfl | hx
      · exact ⟨change x, List.mem_cons_self, hchange x hPx⟩
      · exact ⟨x, List.mem_cons_of_mem _ hx, hPx⟩
    · rcases List.mem_cons.mp hx with rfl | hx
      · exact ⟨x, List.mem_cons_self, hPx⟩
      · obtain ⟨z, hz, hPz⟩ := ih hx
        exact ⟨z, List.mem_cons_of_mem _ hz, hPz⟩

theorem exists_changed (p : α → Bool) (change : α → α) {list : List α} (h : ∃ x ∈ list, p x = true) :
    ∃ x, p x = true ∧ change x ∈ updateFirst p change list := by
  obtain ⟨x, hx, hp⟩ := h
  induction list with
  | nil => cases hx
  | cons y ys ih =>
    rw [updateFirst]
    split
    next hy => exact ⟨y, hy, List.mem_cons_self⟩
    next hy =>
      rcases List.mem_cons.mp hx with rfl | hx
      · exact absurd hp hy
      · obtain ⟨z, hz, hmem⟩ := ih hx
        exact ⟨z, hz, List.mem_cons_of_mem _ hmem⟩

end UpdateFirst

/-! ### Merging methods into functions -/

theorem map_key_of_map_signature {list list' : List FunctionDecl}
    (h : list.map FunctionDecl.signature = list'.map FunctionDecl.signature) :
    list.map FunctionDecl.key = list'.map FunctionDecl.key := by
  have hkey : ∀ l : List FunctionDecl, l.map FunctionDecl.key
      = (l.map FunctionDecl.signature).map fun s => (s.1, s.2.1) := by
    intro l
    rw [List.map_map]
    rfl
  rw [hkey, hkey, h]

/-- A method whose name and line a function has is not added, and any other one is. -/
theorem map_signature_mergeMethod (functions : List FunctionDecl) (method : FunctionDecl) :
    (mergeMethod functions method).map FunctionDecl.signature
      = (if (functions.map FunctionDecl.key).contains method.key then functions
          else functions ++ [method]).map FunctionDecl.signature := by
  have hany : (functions.any fun f => f.name == method.name && f.line == method.line)
      = (functions.map FunctionDecl.key).contains method.key := by
    rw [Bool.eq_iff_iff, List.any_eq_true, List.contains_iff_mem, List.mem_map]
    refine exists_congr fun f => and_congr_right fun _ => ?_
    rw [Bool.and_eq_true, beq_iff_eq, beq_iff_eq, FunctionDecl.key, FunctionDecl.key, Prod.mk.injEq]
  rw [mergeMethod]
  simp only [hany]
  split
  · refine map_updateFirst (fun f => ?_) functions
    rfl
  · rfl

theorem map_signature_foldl_mergeMethod (functions methods : List FunctionDecl) :
    (methods.foldl mergeMethod functions).map FunctionDecl.signature
      = (functions ++ distinctFrom FunctionDecl.key (functions.map FunctionDecl.key) methods).map
        FunctionDecl.signature := by
  induction methods generalizing functions with
  | nil => rw [List.foldl_nil, distinctFrom, List.append_nil]
  | cons method methods ih =>
    have hmerge := map_signature_mergeMethod functions method
    have hkeys := map_key_of_map_signature hmerge
    rw [List.foldl_cons, ih, List.map_append, hmerge, hkeys, distinctFrom]
    by_cases hseen : (functions.map FunctionDecl.key).contains method.key = true
    · rw [if_pos hseen, if_pos hseen, List.map_append]
    · rw [if_neg hseen, if_neg hseen, ← List.map_append, List.append_assoc, List.singleton_append]
      congr 3
      refine distinctFrom_congr _ (fun k => ?_) methods
      rw [List.map_append, List.mem_append, List.mem_cons, List.map_singleton, List.mem_singleton,
        or_comm]

end Outline

namespace Findings

variable {found : Findings} {count : Nat}

theorem map_signature_allFunctions (found : Findings) :
    found.allFunctions.map FunctionDecl.signature
      = (found.functions ++ found.newMethods).map FunctionDecl.signature :=
  map_signature_foldl_mergeMethod _ _

/-- No function is lost, and a method found in a body adds one only if there is none. -/
theorem count_key_allFunctions (found : Findings) (k : String × Nat) :
    (found.allFunctions.map FunctionDecl.key).count k
      = max ((found.functions.map FunctionDecl.key).count k)
        (min 1 ((found.methods.map FunctionDecl.key).count k)) := by
  have hnew : (found.newMethods.map FunctionDecl.key).count k
      = if (found.functions.map FunctionDecl.key).contains k then 0
        else min 1 ((found.methods.map FunctionDecl.key).count k) := by
    simp only [List.count, List.countP_map]
    exact countP_distinctFrom _ _ _ _
  rw [map_key_of_map_signature found.map_signature_allFunctions, List.map_append,
    List.count_append, hnew]
  by_cases hk : (found.functions.map FunctionDecl.key).contains k = true
  · have hpos : 0 < (found.functions.map FunctionDecl.key).count k :=
      List.count_pos_iff.mpr (List.contains_iff_mem.mp hk)
    rw [if_pos hk]
    omega
  · have hzero : (found.functions.map FunctionDecl.key).count k = 0 :=
      List.count_eq_zero.mpr fun hmem => hk (List.contains_iff_mem.mpr hmem)
    rw [if_neg hk]
    omega

theorem exists_mem_allFunctions {m : FunctionDecl} (h : m ∈ found.methods) :
    ∃ f ∈ found.allFunctions, f.name = m.name := by
  have hcount := count_key_allFunctions found m.key
  have hpos : 0 < (found.methods.map FunctionDecl.key).count m.key :=
    List.count_pos_iff.mpr (List.mem_map_of_mem h)
  have hmem : m.key ∈ found.allFunctions.map FunctionDecl.key := by
    rw [← List.count_pos_iff]
    omega
  obtain ⟨f, hf, hkey⟩ := List.mem_map.mp hmem
  exact ⟨f, hf, congrArg Prod.fst hkey⟩

theorem IsSound.isLine_allFunctions (h : found.IsSound count) {f : FunctionDecl}
    (hf : f ∈ found.allFunctions) : IsLine count f.line := by
  have hcount := count_key_allFunctions found f.key
  have hpos : 0 < (found.allFunctions.map FunctionDecl.key).count f.key :=
    List.count_pos_iff.mpr (List.mem_map_of_mem hf)
  have hsource : f.key ∈ found.functions.map FunctionDecl.key
      ∨ f.key ∈ found.methods.map FunctionDecl.key := by
    rw [← List.count_pos_iff, ← List.count_pos_iff]
    omega
  rcases hsource with hmem | hmem
  · obtain ⟨g, hg, hkey⟩ := List.mem_map.mp hmem
    rw [show f.line = g.line from (congrArg Prod.snd hkey).symm]
    exact h.functions g hg
  · obtain ⟨g, hg, hkey⟩ := List.mem_map.mp hmem
    rw [show f.line = g.line from (congrArg Prod.snd hkey).symm]
    exact h.methods g hg

end Findings

/-! ### Listing functions in their classes -/

namespace Outline

variable {functions : List FunctionDecl} {classes : List ClassDecl} {count : Nat}

/-- The class stands on a line of the text and lists its members once each, its methods being
among the functions. -/
structure IsSoundClass (count : Nat) (functions : List FunctionDecl) (c : ClassDecl) : Prop where
  line : IsLine count c.line
  members : c.ListsOnce
  known : ∀ name ∈ c.methods, ∃ f ∈ functions, f.name = name

theorem isSoundClass_listMethod {f : FunctionDecl} (hf : f ∈ functions)
    (h : ∀ c ∈ classes, IsSoundClass count functions c) :
    ∀ c ∈ listMethod classes f, IsSoundClass count functions c := by
  rw [listMethod]
  cases f.owner with
  | none => exact h
  | some owner =>
    refine forall_updateFirst h fun c hc => ?_
    refine ⟨hc.line, ⟨nodup_pushUnique hc.members.1 _, hc.members.2⟩, fun name hname => ?_⟩
    rcases mem_pushUnique.mp hname with hname | rfl
    · exact hc.known name hname
    · exact ⟨f, hf, rfl⟩

theorem isSoundClass_listTrait (use : TraitUse)
    (h : ∀ c ∈ classes, IsSoundClass count functions c) :
    ∀ c ∈ listTrait classes use, IsSoundClass count functions c :=
  forall_updateFirst h fun _ hc => ⟨hc.line, hc.members, hc.known⟩

theorem map_listMethod {β : Type} {g : ClassDecl → β}
    (hg : ∀ (c : ClassDecl) methods, g { c with methods } = g c) (classes : List ClassDecl)
    (f : FunctionDecl) : (listMethod classes f).map g = classes.map g := by
  rw [listMethod]
  cases f.owner with
  | none => rfl
  | some owner => exact map_updateFirst (fun c => hg c _) classes

theorem Lists.listMethod {owner name : String} (h : Lists classes owner name)
    (f : FunctionDecl) : Lists (listMethod classes f) owner name := by
  rw [Outline.listMethod]
  cases f.owner with
  | none => exact h
  | some _ =>
    exact exists_updateFirst h fun c hc => ⟨hc.1, mem_pushUnique.mpr (.inl hc.2)⟩

theorem Lists.listTrait {owner name : String} (h : Lists classes owner name) (use : TraitUse) :
    Lists (listTrait classes use) owner name :=
  exists_updateFirst h fun _ hc => hc

theorem lists_listMethod {f : FunctionDecl} {owner : String} (howner : f.owner = some owner)
    (h : owner ∈ classes.map ClassDecl.name) : Lists (listMethod classes f) owner f.name := by
  obtain ⟨c, hc, rfl⟩ := List.mem_map.mp h
  rw [Outline.listMethod, howner]
  obtain ⟨first, hfirst, hmem⟩ := exists_changed (fun d : ClassDecl => d.name == c.name)
    (fun d => { d with methods := pushUnique d.methods f.name }) ⟨c, hc, beq_self_eq_true c.name⟩
  exact ⟨_, hmem, beq_iff_eq.mp hfirst, mem_pushUnique.mpr (.inr rfl)⟩

theorem lists_foldl_listMethod {f : FunctionDecl} {owner : String} (hf : f ∈ functions)
    (howner : f.owner = some owner) (h : owner ∈ classes.map ClassDecl.name) :
    Lists (functions.foldl listMethod classes) owner f.name := by
  induction functions generalizing classes with
  | nil => cases hf
  | cons g later ih =>
    rw [List.foldl_cons]
    rcases List.mem_cons.mp hf with rfl | hf
    · -- The functions that follow leave it listed.
      exact List.foldlRecOn (motive := fun classes => Lists classes owner f.name) later _
        (lists_listMethod howner h) fun _ h g _ => h.listMethod g
    · exact ih hf (by rwa [map_listMethod fun _ _ => rfl])

end Outline

/-! ### Outlines -/

namespace Findings

variable {found : Findings} {count : Nat}

theorem IsSound.isSoundClass_allClasses (h : found.IsSound count) :
    ∀ c ∈ found.allClasses, IsSoundClass count found.allFunctions c := by
  have hclasses : ∀ c ∈ found.classes, IsSoundClass count found.allFunctions c := by
    intro c hc
    refine ⟨h.classes c hc, h.members c hc, fun name hname => ?_⟩
    obtain ⟨m, hm, rfl⟩ := h.known c hc name hname
    exact exists_mem_allFunctions hm
  refine List.foldlRecOn
    (motive := fun classes => ∀ c ∈ classes, IsSoundClass count found.allFunctions c) _ _ ?_
    fun _ h use _ => isSoundClass_listTrait use h
  exact List.foldlRecOn
    (motive := fun classes => ∀ c ∈ classes, IsSoundClass count found.allFunctions c) _ _ hclasses
    fun _ h f hf => isSoundClass_listMethod hf h

/-- What methods and traits are listed in a class changes nothing else about it. -/
theorem map_allClasses {β : Type} {g : ClassDecl → β}
    (hmethods : ∀ (c : ClassDecl) methods, g { c with methods } = g c)
    (himplements : ∀ (c : ClassDecl) implements, g { c with implements } = g c)
    (found : Findings) : found.allClasses.map g = found.classes.map g := by
  refine List.foldlRecOn (motive := fun classes : List ClassDecl =>
    classes.map g = found.classes.map g) _ _ ?_
    fun classes h use _ => (map_updateFirst (fun c => himplements c _) classes).trans h
  exact List.foldlRecOn (motive := fun classes : List ClassDecl =>
    classes.map g = found.classes.map g) _ _ rfl
    fun classes h f _ => (map_listMethod hmethods classes f).trans h

theorem lists_allClasses {f : FunctionDecl} {owner : String} (hf : f ∈ found.allFunctions)
    (howner : f.owner = some owner) (h : owner ∈ found.allClasses.map ClassDecl.name) :
    Lists found.allClasses owner f.name := by
  rw [map_allClasses (fun _ _ => rfl) fun _ _ => rfl] at h
  exact List.foldlRecOn (motive := fun classes => Lists classes owner f.name) _ _
    (lists_foldl_listMethod hf howner h) fun _ h use _ => h.listTrait use

/-- The outline before declarations that are exported apart are marked. -/
def sorted (found : Findings) : Outline :=
  { functions := sortOn (·.line) found.allFunctions
    classes := sortOn (·.line) found.allClasses
    interfaces := sortOn (·.line) found.interfaces
    types := sortOn (·.line) found.types
    imports := orderedUnique found.imports
    exports := orderedUnique found.exports }

end Findings

namespace Outline

/-- An outline is another one but for what is exported. -/
def Marks (o marked : Outline) : Prop :=
  ∃ (functionMark : FunctionDecl → Bool) (classMark : ClassDecl → Bool)
    (typeMark : TypeDecl → Bool),
    marked.functions = o.functions.map (fun f => { f with isExported := functionMark f })
      ∧ marked.classes = o.classes.map (fun c => { c with isExported := classMark c })
      ∧ marked.interfaces = o.interfaces.map (fun t => { t with isExported := typeMark t })
      ∧ marked.types = o.types.map (fun t => { t with isExported := typeMark t })
      ∧ marked.imports = o.imports

theorem Marks.refl (o : Outline) : Marks o o :=
  ⟨(·.isExported), (·.isExported), (·.isExported), (List.map_id _).symm, (List.map_id _).symm,
    (List.map_id _).symm, (List.map_id _).symm, rfl⟩

theorem ite_mark {α : Type} (mark : Bool → α) (b old : Bool) :
    (if b = true then mark true else mark old) = mark (b || old) := by
  cases b <;> rfl

theorem functions_markExported (o : Outline) :
    (markExported o).functions = o.functions.map fun f => { f with
      isExported := (f.owner.isNone && o.exports.contains f.name) || f.isExported } :=
  List.map_congr_left fun f _ => ite_mark (fun mark => { f with isExported := mark }) _ f.isExported

theorem classes_markExported (o : Outline) :
    (markExported o).classes = o.classes.map fun c => { c with
      isExported := o.exports.contains c.name || c.isExported } :=
  List.map_congr_left fun c _ => ite_mark (fun mark => { c with isExported := mark }) _ c.isExported

theorem marks_markExported (o : Outline) : Marks o (markExported o) := by
  refine ⟨_, _, fun t => o.exports.contains t.name || t.isExported, functions_markExported o,
    classes_markExported o, List.map_congr_left fun t _ => ?_, List.map_congr_left fun t _ => ?_,
    rfl⟩
  · exact ite_mark (fun mark => { t with isExported := mark }) _ t.isExported
  · exact ite_mark (fun mark => { t with isExported := mark }) _ t.isExported

theorem mem_orderedUnique {entries : List (Nat × String)} {value : String} :
    value ∈ orderedUnique entries ↔ value ∈ entries.map Prod.snd := by
  rw [orderedUnique, mem_foldl_pushUnique, ((perm_sortOn _ entries).map _).mem_iff]
  exact or_iff_right List.not_mem_nil

theorem nodup_orderedUnique (entries : List (Nat × String)) : (orderedUnique entries).Nodup :=
  nodup_foldl_pushUnique List.nodup_nil _

theorem marks_toOutline (found : Findings) (rule : ExportRule) :
    Marks found.sorted (found.toOutline rule) ∧ (found.toOutline rule).exports.Nodup := by
  obtain ⟨marked, hmarks, hexports, houtline⟩ : ∃ marked, Marks found.sorted marked
      ∧ marked.exports = orderedUnique found.exports
      ∧ found.toOutline rule = if marked.exports.isEmpty then
        { marked with exports := exportedNames marked } else marked := by
    cases rule with
    | keyword word => exact ⟨_, marks_markExported found.sorted, rfl, rfl⟩
    | underscore | capitalized => exact ⟨_, .refl found.sorted, rfl, rfl⟩
  rw [houtline]
  split
  · exact ⟨hmarks, nodup_orderedUnique _⟩
  · rw [hexports]
    exact ⟨hmarks, nodup_orderedUnique _⟩

theorem inOrder_sortOn {α : Type} {count : Nat} {line : α → Nat} {list : List α} {mark : α → α}
    (hmark : ∀ x, line (mark x) = line x) (h : ∀ x ∈ list, IsLine count (line x)) :
    InOrder count line ((sortOn line list).map mark) := by
  refine ⟨List.pairwise_map.mpr ((pairwise_sortOn line list).imp fun hle => ?_), fun x hx => ?_⟩
  · rwa [hmark, hmark]
  · obtain ⟨y, hy, rfl⟩ := List.mem_map.mp hx
    rw [hmark]
    exact h y (mem_sortOn.mp hy)

theorem isConsistent_toOutline {count : Nat} {found : Findings} (h : found.IsSound count)
    (rule : ExportRule) : (found.toOutline rule).IsConsistent count := by
  obtain ⟨⟨functionMark, classMark, typeMark, hfunctions, hclasses, hinterfaces, htypes, himports⟩,
    hexports⟩ := marks_toOutline found rule
  -- A function or class of the outline is one that was merged, but for its mark.
  have hfunction : ∀ f, f ∈ found.allFunctions →
      ∃ g ∈ (found.toOutline rule).functions, g.name = f.name := by
    intro f hf
    rw [hfunctions]
    exact ⟨_, List.mem_map_of_mem (mem_sortOn.mpr hf), rfl⟩
  have hclass : ∀ c ∈ (found.toOutline rule).classes, ∃ d ∈ found.allClasses,
      c.name = d.name ∧ c.methods = d.methods ∧ c.properties = d.properties := by
    intro c hc
    rw [hclasses] at hc
    obtain ⟨d, hd, rfl⟩ := List.mem_map.mp hc
    exact ⟨d, mem_sortOn.mp hd, rfl, rfl, rfl⟩
  refine ⟨?_, ?_, ?_, ?_, fun c hc => ?_, ?_, hexports, fun c hc name hname => ?_,
    fun f hf owner howner hc => ?_⟩
  · rw [hfunctions]
    exact inOrder_sortOn (fun _ => rfl) fun f hf => h.isLine_allFunctions hf
  · rw [hclasses]
    exact inOrder_sortOn (fun _ => rfl) fun c hc => (h.isSoundClass_allClasses c hc).line
  · rw [hinterfaces]
    exact inOrder_sortOn (fun _ => rfl) h.interfaces
  · rw [htypes]
    exact inOrder_sortOn (fun _ => rfl) h.types
  · obtain ⟨d, hd, -, hmethods, hproperties⟩ := hclass c hc
    rw [hmethods, hproperties]
    exact (h.isSoundClass_allClasses d hd).members
  · rw [himports]
    exact nodup_orderedUnique _
  · obtain ⟨d, hd, -, hmethods, -⟩ := hclass c hc
    rw [hmethods] at hname
    obtain ⟨f, hf, rfl⟩ := (h.isSoundClass_allClasses d hd).known name hname
    exact hfunction f hf
  · rw [hfunctions] at hf
    obtain ⟨g, hg, rfl⟩ := List.mem_map.mp hf
    obtain ⟨c, hc, rfl⟩ := hc
    obtain ⟨d, hd, hname, -⟩ := hclass c hc
    have hlisted : Lists found.allClasses d.name g.name :=
      Findings.lists_allClasses (mem_sortOn.mp hg) (hname ▸ howner) (List.mem_map_of_mem hd)
    obtain ⟨e, he, hename, hmethod⟩ := hlisted
    rw [Lists, hclasses]
    exact ⟨_, List.mem_map_of_mem (mem_sortOn.mpr he), hename.trans hname.symm, hmethod⟩

theorem perm_map_toOutline {β : Type} {g : FunctionDecl → β} (found : Findings) (rule : ExportRule)
    (hg : ∀ (f : FunctionDecl) mark, g { f with isExported := mark } = g f) :
    ((found.toOutline rule).functions.map g).Perm (found.allFunctions.map g) := by
  obtain ⟨⟨functionMark, -, -, hfunctions, -⟩, -⟩ := marks_toOutline found rule
  have hmark : (fun f : FunctionDecl => g { f with isExported := functionMark f }) = g :=
    funext fun f => hg f _
  rw [hfunctions, List.map_map]
  show (List.map (fun f : FunctionDecl => g { f with isExported := functionMark f }) _).Perm _
  rw [hmark]
  exact (perm_sortOn _ _).map g

end Outline

/-- The outline of any text in any language is consistent, whatever the patterns of the rules
report.  Its functions are those that the rules found with the methods found in bodies under a name
and line that no function has, each once; so of the functions with one name and line there are as
many as the rules found, and at least one if a body has a method of that name there. -/
theorem RuleRegistry.outline_consistent (registry : RuleRegistry) (language : Option Language)
    (text : String) :
    let outline := registry.outline language text
    outline.IsConsistent (text.toList.count '\n' + 1)
      ∧ ∀ set, language.bind registry.get? = some set →
        let found := allFindings (Source.ofText set text)
        (outline.functions.map FunctionDecl.signature).Perm
            ((found.functions ++ found.newMethods).map FunctionDecl.signature)
          ∧ ∀ k, (outline.functions.map FunctionDecl.key).count k
            = max ((found.functions.map FunctionDecl.key).count k)
              (min 1 ((found.methods.map FunctionDecl.key).count k)) := by
  intro outline
  have houtline : outline = registry.outline language text := rfl
  rw [RuleRegistry.outline] at houtline
  cases hset : language.bind registry.get? with
  | none =>
    rw [hset] at houtline
    rw [houtline]
    exact ⟨isConsistent_empty _, fun set hset => by cases hset⟩
  | some set =>
    rw [hset] at houtline
    have hcount : (Source.ofText set text).index.lineCount = text.toList.count '\n' + 1 :=
      congrArg (· + 1) (length_breaksFrom 0 text.toList)
    rw [houtline, ← hcount]
    refine ⟨isConsistent_toOutline (isSound_allFindings _) set.exportRule, fun set' hset' => ?_⟩
    obtain rfl : set = set' := Option.some.inj hset'
    intro found
    refine ⟨?_, fun k => ?_⟩
    · rw [← found.map_signature_allFunctions]
      exact perm_map_toOutline found set.exportRule fun _ _ => rfl
    · rw [← found.count_key_allFunctions]
      exact (perm_map_toOutline found set.exportRule fun _ _ => rfl).count_eq k

end SourceRetrieval
