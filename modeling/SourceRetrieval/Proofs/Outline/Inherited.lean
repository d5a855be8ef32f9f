/-
Methods that are exported with their class.

* `inherits_allFindings` — a method found in the body of a class is exported as the
  declaration of the class is;
* `mem_methods_of_mem_allFunctions` — a function that no rule for functions found is one of
  these methods;
* `inheritsExport_builtin` — the rules of TypeScript and JavaScript let methods inherit;
* `method_isExported` — a method shares the mark of its class unless the class is exported
  apart from its declaration.

Design notes: a method takes over the mark of its class while the body is read, and an export
list marks classes after that.  Merging changes neither the names nor the marks of classes, so
the first mark of a class is the one of its declaration.
-/
import Mathlib.Data.List.Nodup
import SourceRetrieval.Proofs.Outline.Builtin
import SourceRetrieval.Proofs.Outline.Merging

namespace SourceRetrieval

open Text Outline

/-- Whether a member is exported if it inherits the mark of its class: not if its name is
private. -/
def inheritedMark (name : String) (mark : Bool) : Bool := name.toList.head? != some '#' && mark

/-- The methods that a rule finds have no modifiers that export them, and belong to a class. -/
def OutlineRule.InheritsExport : OutlineRule → Prop
  | .classes _ _ members => ∀ pattern ∈ members.method, pattern.hasGroup "export" = false
  | .methodBlocks _ _ => False
  | _ => True

/-- A keyword exports declarations, and no modifier exports a method. -/
structure RuleSet.InheritsExport (set : RuleSet) : Prop where
  keyword : ∃ word, set.exportRule = .keyword word
  rules : ∀ rule ∈ set.rules, rule.InheritsExport

/-- Every method belongs to a class and has inherited its mark. -/
def Findings.Inherits (found : Findings) : Prop :=
  ∀ m ∈ found.methods, ∃ c ∈ found.classes,
    m.owner = some c.name ∧ m.isExported = inheritedMark m.name c.isExported

theorem ExportRule.isExported_keyword_none (word name : String) (mark : Bool) :
    (ExportRule.keyword word).isExported none name mark = inheritedMark name mark := by
  rw [ExportRule.isExported, inheritedMark]
  cases h : name.toList.head? == some '#'
  · simp [bne, h]
  · simp [bne, h]

namespace Outline

variable {source : Source} {members : MemberRules}

/-! ### Findings -/

/-- The class is still declared as it was, and its methods have inherited its mark. -/
structure Holder.Inherits (decl : ClassDecl) (holder : Holder) : Prop where
  name : holder.1.name = decl.name
  mark : holder.1.isExported = decl.isExported
  methods : ∀ m ∈ holder.2,
    m.owner = some decl.name ∧ m.isExported = inheritedMark m.name decl.isExported

theorem inherits_methodAt {word : String} (hword : source.set.exportRule = .keyword word)
    (hmembers : ∀ pattern ∈ members.method, pattern.hasGroup "export" = false)
    {decl : ClassDecl} {start : Nat} {text : List Char} {method : FunctionDecl}
    (h : methodAt? source members decl start text = some method) :
    method.owner = some decl.name
      ∧ method.isExported = inheritedMark method.name decl.isExported := by
  simp only [methodAt?, Option.bind_eq_bind, Option.bind_eq_some_iff] at h
  obtain ⟨pattern, hpattern, m, -, name, -, h⟩ := h
  split at h
  · cases h
  · cases h
    refine ⟨rfl, ?_⟩
    simp only [hmembers pattern hpattern, Bool.false_eq_true, if_false, hword]
    exact ExportRule.isExported_keyword_none _ _ _

theorem Holder.Inherits.takeMember {word : String} (hword : source.set.exportRule = .keyword word)
    (hmembers : ∀ pattern ∈ members.method, pattern.hasGroup "export" = false)
    {decl : ClassDecl} {holder : Holder} (h : holder.Inherits decl) (start : Nat)
    (text : List Char) : (takeMember source members holder start text).Inherits decl := by
  obtain ⟨current, methods⟩ := holder
  obtain ⟨hname, hmark, hmethods⟩ := h
  rw [Outline.takeMember]
  split
  next method hmethod =>
    obtain ⟨howner, hinherited⟩ := inherits_methodAt hword hmembers hmethod
    refine ⟨hname, hmark, fun m hm => ?_⟩
    rcases List.mem_append.mp hm with hm | hm
    · exact hmethods m hm
    · rw [List.mem_singleton.mp hm, howner, hinherited]
      exact ⟨congrArg some hname, congrArg _ hmark⟩
  · split
    · exact ⟨hname, hmark, hmethods⟩
    · exact ⟨hname, hmark, hmethods⟩

theorem inherits_membersOf {word : String} (hword : source.set.exportRule = .keyword word)
    (hmembers : ∀ pattern ∈ members.method, pattern.hasGroup "export" = false)
    (decl : ClassDecl) (body : Option Body) :
    (membersOf source members decl body).Inherits decl := by
  have hbegin : Holder.Inherits decl (decl, []) := ⟨rfl, rfl, nofun⟩
  cases body with
  | none => exact hbegin
  | some body =>
    have hlines : (body.lines.foldl (Outline.addMember source members body) (decl, [])).Inherits
        decl := List.foldlRecOn _ _ hbegin fun holder hholder start _ =>
          hholder.takeMember hword hmembers start _
    have hattributes : ∀ current : ClassDecl,
        (addAttributes source members body current).name = current.name
          ∧ (addAttributes source members body current).isExported = current.isExported := by
      intro current
      rw [addAttributes]
      cases members.field with
      | none => exact ⟨rfl, rfl⟩
      | some pattern => exact ⟨rfl, rfl⟩
    exact ⟨(hattributes _).1.trans hlines.name, (hattributes _).2.trans hlines.mark,
      hlines.methods⟩

theorem inherits_classAt {word : String} (hword : source.set.exportRule = .keyword word)
    (hmembers : ∀ pattern ∈ members.method, pattern.hasGroup "export" = false)
    {bases : BaseList} {m : Pattern.Match} {holder : Holder}
    (h : classAt? source bases members m = some holder) : holder.Inherits holder.1 := by
  simp only [classAt?, Option.bind_eq_bind, Option.bind_eq_some_iff] at h
  obtain ⟨name, -, h⟩ := h
  cases h
  obtain ⟨hname, hmark, hmethods⟩ := inherits_membersOf hword hmembers _ _
  refine ⟨rfl, rfl, fun method hmethod => ?_⟩
  rw [hname, hmark]
  exact hmethods method hmethod

end Outline

open Outline

theorem Findings.Inherits.append {first second : Findings} (h : first.Inherits)
    (h' : second.Inherits) : (first.append second).Inherits := by
  intro m hm
  rcases List.mem_append.mp hm with hm | hm
  · obtain ⟨c, hc, hinherits⟩ := h m hm
    exact ⟨c, List.mem_append_left _ hc, hinherits⟩
  · obtain ⟨c, hc, hinherits⟩ := h' m hm
    exact ⟨c, List.mem_append_right _ hc, hinherits⟩

theorem OutlineRule.inherits_findings {source : Source} {word : String}
    (hword : source.set.exportRule = .keyword word) {rule : OutlineRule}
    (h : rule.InheritsExport) : (rule.findings source).Inherits := by
  cases rule with
  | classes pattern bases members =>
    intro m hm
    obtain ⟨holder, hholder, hm⟩ := List.mem_flatMap.mp hm
    obtain ⟨found, -, hfound⟩ := List.mem_filterMap.mp hholder
    exact ⟨holder.1, List.mem_map_of_mem hholder, (inherits_classAt hword h hfound).methods m hm⟩
  | methodBlocks pattern members => cases h
  | functions | interfaces | types | imports | exports => nofun

/-- A method found in the body of a class is exported as the declaration of the class is. -/
theorem Outline.inherits_allFindings {source : Source} (h : source.set.InheritsExport) :
    (allFindings source).Inherits := by
  obtain ⟨word, hword⟩ := h.keyword
  exact List.foldlRecOn (motive := Findings.Inherits) _ _ nofun fun _ hfound rule hrule =>
    hfound.append (rule.inherits_findings hword (h.rules rule hrule))

/-! ### Merging -/

namespace Findings

variable {found : Findings}

/-- A function that no rule for functions found is one of the methods. -/
theorem mem_methods_of_mem_allFunctions (howned : ∀ m ∈ found.methods, m.owner.isSome = true)
    {f : FunctionDecl} (hf : f ∈ found.allFunctions)
    (hnew : f.key ∉ found.functions.map FunctionDecl.key) : f ∈ found.methods := by
  let Known (f : FunctionDecl) : Prop :=
    f.key ∈ found.functions.map FunctionDecl.key ∨ f ∈ found.methods
  have hbegin : ∀ f ∈ found.functions, Known f := fun f hf => .inl (List.mem_map_of_mem hf)
  have hstep : ∀ functions : List FunctionDecl, (∀ f ∈ functions, Known f) →
      ∀ m ∈ found.methods, ∀ f ∈ mergeMethod functions m, Known f := by
    intro functions h m hm
    rw [mergeMethod]
    split
    · refine forall_updateFirst h fun f hf => hf.imp id fun hf => ?_
      -- A method has an owner and learns no other one.
      rwa [Option.or_of_isSome (howned f hf)]
    · exact List.forall_mem_append.mpr ⟨h, List.forall_mem_singleton.mpr (.inr hm)⟩
  have hall : ∀ f ∈ found.allFunctions, Known f :=
    List.foldlRecOn (motive := fun functions => ∀ f ∈ functions, Known f) _ _ hbegin hstep
  exact (hall f hf).resolve_left hnew

/-- Where a keyword exports, functions and classes are marked by the export lists. -/
theorem toOutline_keyword (found : Findings) (word : String) :
    (found.toOutline (.keyword word)).functions = (markExported found.sorted).functions
      ∧ (found.toOutline (.keyword word)).classes = (markExported found.sorted).classes := by
  rw [toOutline]
  split
  · exact ⟨rfl, rfl⟩
  · exact ⟨rfl, rfl⟩

/-- An export list marks no function that has an owner. -/
theorem mem_allFunctions_of_mem_toOutline {word : String} {f : FunctionDecl}
    (hf : f ∈ (found.toOutline (.keyword word)).functions) (howner : f.owner.isSome = true) :
    f ∈ found.allFunctions := by
  rw [(toOutline_keyword found word).1, functions_markExported] at hf
  obtain ⟨g, hg, rfl⟩ := List.mem_map.mp hf
  have hnone : g.owner.isNone = false := by
    rw [← Option.not_isSome, howner]
    rfl
  rw [hnone, Bool.false_and, Bool.false_or]
  exact mem_sortOn.mp hg

/-- Whether an export names what is declared under this name. -/
def listed (found : Findings) (name : String) : Bool := (found.exports.map Prod.snd).contains name

/-- A class is exported if it is declared so or an export names it. -/
theorem exists_declared {word : String} {c : ClassDecl}
    (hc : c ∈ (found.toOutline (.keyword word)).classes) :
    ∃ declared ∈ found.classes, declared.name = c.name
      ∧ c.isExported = (declared.isExported || found.listed c.name) := by
  rw [(toOutline_keyword found word).2, classes_markExported] at hc
  obtain ⟨merged, hmerged, rfl⟩ := List.mem_map.mp hc
  have hsame : found.allClasses.map (fun c => (c.name, c.isExported))
      = found.classes.map (fun c => (c.name, c.isExported)) :=
    map_allClasses (fun _ _ => rfl) (fun _ _ => rfl) found
  obtain ⟨declared, hdeclared, heq⟩ := List.mem_map.mp
    (hsame ▸ List.mem_map_of_mem (mem_sortOn.mp hmerged))
  obtain ⟨hname, hmark⟩ := Prod.mk.inj heq
  have hlisted : found.sorted.exports.contains merged.name = found.listed merged.name := by
    rw [Bool.eq_iff_iff, listed, List.contains_iff_mem, List.contains_iff_mem]
    exact mem_orderedUnique
  refine ⟨declared, hdeclared, hname, ?_⟩
  rw [hmark, Bool.or_comm, ← hlisted]

/-- The classes of an outline have the names that were found. -/
theorem perm_name_classes (found : Findings) (word : String) :
    ((found.toOutline (.keyword word)).classes.map ClassDecl.name).Perm
      (found.classes.map ClassDecl.name) := by
  rw [(toOutline_keyword found word).2, classes_markExported, List.map_map,
    ← map_allClasses (fun _ _ => rfl) (fun _ _ => rfl) found]
  exact (perm_sortOn _ found.allClasses).map ClassDecl.name

end Findings

/-! ### The rules of TypeScript and JavaScript -/

/-- A group that the text of a pattern does not name is no group of the pattern. -/
theorem Pattern.hasGroup_eq_false {text : List Char} {name : String} {pattern : Pattern}
    (h : ofLines? text = some pattern)
    (hnames : (readNode? { multiLine := true } text).any
      (fun read => read.2.1.any (·.1 == name)) = false) :
    pattern.hasGroup name = false := by
  simp only [ofLines?, Option.bind_eq_bind, Option.bind_eq_some_iff] at h
  obtain ⟨⟨node, names, groups⟩, hread, h⟩ := h
  rw [hread, Option.any_some, List.any_eq_false] at hnames
  cases h
  show (Machine.ofNode node names groups).names.any _ = false
  rw [List.any_eq_false]
  exact fun entry hentry => hnames entry (List.mem_filter.mp hentry).1

namespace Outline

/-- Methods inherit if the text of their pattern names no modifiers. -/
theorem inheritsExport_classes {method property field : List (List Char)} {reserved : List String}
    (hnames : (Pattern.readNode? { multiLine := true } method.flatten).any
      (fun read => read.2.1.any (·.1 == "export")) = false)
    (compiled : Option Pattern) (bases : BaseList) :
    ∀ rule ∈ (do
      let pattern ← compiled
      let members ← memberRules? method property field reserved
      return OutlineRule.classes pattern bases members), rule.InheritsExport := by
  intro rule hrule
  simp only [memberRules?, Option.bind_eq_bind, Option.bind_eq_some_iff, Option.mem_def] at hrule
  obtain ⟨_, -, members, ⟨methods, hmethods, _, -, _, -, hmembers⟩, h⟩ := hrule
  cases h
  cases hmembers
  intro pattern hpattern
  obtain rfl : methods = some pattern := hpattern
  rw [memberRules?.some?] at hmethods
  split at hmethods
  · cases hmethods
  · obtain ⟨_, hmethod, h⟩ := Option.map_eq_some_iff.mp hmethods
    cases h
    exact Pattern.hasGroup_eq_false hmethod hnames

theorem inheritsExport_map {kind : Pattern → OutlineRule} (h : ∀ p, (kind p).InheritsExport)
    (compiled : Option Pattern) : ∀ rule ∈ compiled.map kind, rule.InheritsExport := by
  intro rule hrule
  obtain ⟨pattern, -, rfl⟩ := Option.map_eq_some_iff.mp hrule
  exact h pattern

/-- What is read off a table of candidates is one of them. -/
theorem mem_of_mapM_id {α : Type} {candidates : List (Option α)} {list : List α}
    (h : candidates.mapM id = some list) : ∀ x ∈ list, some x ∈ candidates := by
  induction candidates generalizing list with
  | nil =>
    cases h
    nofun
  | cons candidate candidates ih =>
    rw [List.mapM_cons] at h
    simp only [Option.bind_eq_bind, Option.bind_eq_some_iff] at h
    obtain ⟨first, hfirst, others, hothers, h⟩ := h
    cases h
    refine List.forall_mem_cons.mpr ⟨?_, fun x hx => List.mem_cons_of_mem _ (ih hothers x hx)⟩
    obtain rfl : candidate = some first := hfirst
    exact List.mem_cons_self

namespace Script

theorem inheritsExport_classRule : ∀ rule ∈ classRule, rule.InheritsExport :=
  inheritsExport_classes (by decide +kernel) _ .explicit

/-- No rule of the table finds a method that does not inherit. -/
theorem inheritsExport_table :
    ∀ candidate ∈ functionRules ++ [classRule] ++ importRules ++ exportRules ++ typedRules,
      ∀ rule ∈ candidate, rule.InheritsExport := by
  have hfunction := fun pieces =>
    @inheritsExport_map .functions (fun _ => trivial) (piecewise? pieces)
  have hinterface := fun pieces =>
    @inheritsExport_map (.interfaces · []) (fun _ => trivial) (piecewise? pieces)
  have htype := fun pieces =>
    @inheritsExport_map (.types · []) (fun _ => trivial) (piecewise? pieces)
  have himport := fun mode pieces =>
    @inheritsExport_map (.imports · mode) (fun _ => trivial) (piecewise? pieces)
  have hexport := fun mode pieces =>
    @inheritsExport_map (.exports · mode) (fun _ => trivial) (piecewise? pieces)
  simp only [functionRules, importRules, exportRules, typedRules, List.forall_mem_append,
    List.forall_mem_cons]
  refine ⟨⟨⟨⟨?functions, ?classes⟩, ?imports⟩, ?exports⟩, ?types⟩
  case functions => exact ⟨hfunction _, hfunction _, hfunction _, nofun⟩
  case classes => exact ⟨inheritsExport_classRule, nofun⟩
  case imports => exact ⟨himport _ _, himport _ _, himport _ _, himport _ _, nofun⟩
  case exports =>
    exact ⟨hexport _ _, hexport _ _, hexport _ _, hexport _ _, hexport _ _, hexport _ _, nofun⟩
  case types => exact ⟨hinterface _, htype _, htype _, nofun⟩

theorem inheritsExport_rules {typed : Bool} {set : RuleSet} (h : rules? typed = some set) :
    set.InheritsExport := by
  simp only [rules?, Option.bind_eq_bind, Option.bind_eq_some_iff] at h
  obtain ⟨rules, hrules, h⟩ := h
  cases h
  refine ⟨⟨"export", rfl⟩, fun rule hrule => inheritsExport_table (some rule) ?_ rule rfl⟩
  have hmem := mem_of_mapM_id hrules rule hrule
  split at hmem
  · exact hmem
  · exact List.mem_append_left _ hmem

end Script

end Outline

namespace RuleRegistry

variable {registry : RuleRegistry} {language : Language} {set : RuleSet}

/-- In TypeScript and JavaScript methods inherit the mark of their class. -/
def InheritsExport (registry : RuleRegistry) : Prop :=
  ∀ entry ∈ registry.sets, entry.1 ∈ [Language.typeScript, .javaScript] → entry.2.InheritsExport

theorem InheritsExport.register (h : registry.InheritsExport)
    (hset : language ∈ [Language.typeScript, .javaScript] → set.InheritsExport) :
    (registry.register language set).InheritsExport :=
  List.forall_mem_cons.mpr ⟨hset, fun entry hentry => h entry (List.mem_filter.mp hentry).1⟩

/-- What methods inherit in other languages does not matter. -/
theorem InheritsExport.register_other (h : registry.InheritsExport)
    (hother : language ∉ [Language.typeScript, .javaScript]) :
    (registry.register language set).InheritsExport :=
  h.register fun hmem => absurd hmem hother

theorem inheritsExport_builtin (h : builtin? = some registry) : registry.InheritsExport := by
  simp only [builtin?, Option.bind_eq_bind, Option.bind_eq_some_iff] at h
  obtain ⟨typeScript, htypeScript, javaScript, hjavaScript, _, -, _, -, _, -, _, -, _, -, h⟩ := h
  cases h
  have hempty : empty.InheritsExport := fun entry hentry => absurd hentry List.not_mem_nil
  iterate 5 refine .register_other ?_ (by decide)
  exact (hempty.register fun _ => Script.inheritsExport_rules htypeScript).register
    fun _ => Script.inheritsExport_rules hjavaScript

theorem InheritsExport.of_get? (h : registry.InheritsExport)
    (hlanguage : language ∈ [Language.typeScript, .javaScript])
    (hset : registry.get? language = some set) : set.InheritsExport := by
  obtain ⟨before, after, hsets, -⟩ := List.lookup_eq_some_iff.mp hset
  refine h (language, set) ?_ hlanguage
  rw [hsets]
  exact List.mem_append_right _ List.mem_cons_self

/-! ### Outlines -/

/-- The built-in rules of TypeScript and JavaScript let methods inherit.  Under rules that do, with
whatever patterns, a method is exported if its class is declared so and its name is not private, and
a class is exported also if an export names it.  So a method with a name that is not private shares
the mark of its class unless the class is exported by its name alone. -/
theorem method_isExported (registry : RuleRegistry) (language : Language) (set : RuleSet)
    (hset : registry.get? language = some set) (text : String) :
    (builtin? = some registry → language ∈ [Language.typeScript, .javaScript] →
        set.InheritsExport)
      ∧ (set.InheritsExport →
        let found := allFindings (Source.ofText set text)
        let outline := registry.outline (some language) text
        (outline.classes.map ClassDecl.name).Nodup →
        ∀ f ∈ outline.functions, f.key ∉ found.functions.map FunctionDecl.key →
        ∀ c ∈ outline.classes, f.owner = some c.name →
          ∃ declared ∈ found.classes, declared.name = c.name
            ∧ c.isExported = (declared.isExported || found.listed c.name)
            ∧ f.isExported = inheritedMark f.name declared.isExported
            ∧ (f.isExported = inheritedMark f.name c.isExported ↔
              f.name.toList.head? = some '#' ∨ declared.isExported = true
                ∨ found.listed c.name = false)) := by
  refine ⟨fun hregistry hlanguage => (inheritsExport_builtin hregistry).of_get? hlanguage hset, ?_⟩
  intro hinherits found outline hnames f hf hnew c hc howner
  obtain ⟨word, hword⟩ := hinherits.keyword
  have houtline : outline = found.toOutline (.keyword word) := by
    rw [← hword]
    show registry.outline (some language) text = Outline.ofText set text
    rw [RuleRegistry.outline, Option.bind_some, hset]
  rw [houtline] at hnames hf hc
  have hmethods : found.Inherits := Outline.inherits_allFindings hinherits
  -- The method has inherited the mark of a class of that name, and there is one such class.
  have hmethod : f ∈ found.methods := by
    refine Findings.mem_methods_of_mem_allFunctions (fun m hm => ?_)
      (Findings.mem_allFunctions_of_mem_toOutline hf (Option.isSome_of_eq_some howner)) hnew
    obtain ⟨_, -, hm, -⟩ := hmethods m hm
    exact Option.isSome_of_eq_some hm
  obtain ⟨holder, hholder, hof, hmark⟩ := hmethods f hmethod
  obtain ⟨declared, hdeclared, hname, hclass⟩ := Findings.exists_declared hc
  have hsame : holder = declared :=
    List.inj_on_of_nodup_map ((Findings.perm_name_classes found word).nodup_iff.mp hnames) hholder
      hdeclared ((Option.some.inj (hof.symm.trans howner)).trans hname.symm)
  subst hsame
  refine ⟨holder, hholder, hname, hclass, hmark, ?_⟩
  rw [hmark, hclass, inheritedMark, inheritedMark]
  cases holder.isExported <;> cases found.listed c.name <;> simp [bne]

/-- A class with one method that is exported by its name alone. -/
def apartText : String := "class A \x7b\n  m() \x7b\x7d\n\x7d\nexport \x7b A \x7d;\n"

/-- The method of the class. -/
def apartMethod : FunctionDecl := ⟨"m", 2, [], none, false, some "A"⟩

/-- The class itself. -/
def apartClass : ClassDecl := ⟨"A", 1, ["m"], [], none, [], true⟩

/-- No rule for functions finds the method, and an export names the class. -/
theorem outline_apartText :
    let found := allFindings (Source.ofText (Script.rules false) apartText)
    found.functions = [] ∧ found.exports = [(29, "A")]
      ∧ builtin.outline (some .javaScript) apartText
        = { functions := [apartMethod], classes := [apartClass], exports := ["A"] } := by
  decide +kernel

/-- The class is exported, since it is named by an export, and its method is not. -/
theorem method_isExported_apart :
    let found := allFindings (Source.ofText (Script.rules false) apartText)
    let outline := builtin.outline (some .javaScript) apartText
    builtin? = some builtin ∧ builtin.get? .javaScript = some (Script.rules false)
      ∧ (outline.classes.map ClassDecl.name).Nodup
      ∧ apartMethod ∈ outline.functions
      ∧ apartMethod.key ∉ found.functions.map FunctionDecl.key
      ∧ apartClass ∈ outline.classes ∧ apartMethod.owner = some apartClass.name
      ∧ apartClass.isExported = true ∧ apartMethod.isExported = false
      ∧ (∃ declared ∈ found.classes, declared.name = apartClass.name
        ∧ declared.isExported = false)
      ∧ found.listed apartClass.name = true := by
  intro found outline
  obtain ⟨hfunctions, hexports, houtline⟩ := outline_apartText
  have hlisted : found.listed apartClass.name = true := by
    rw [Findings.listed, show found.exports = _ from hexports]
    decide
  have hset := get?_builtin false
  have hnames : (outline.classes.map ClassDecl.name).Nodup := by
    rw [show outline = _ from houtline]
    exact List.nodup_singleton _
  have hmethod : apartMethod ∈ outline.functions := by
    rw [show outline = _ from houtline]
    exact List.mem_singleton_self _
  have hclass : apartClass ∈ outline.classes := by
    rw [show outline = _ from houtline]
    exact List.mem_singleton_self _
  have hnew : apartMethod.key ∉ found.functions.map FunctionDecl.key := by
    rw [show found.functions = [] from hfunctions]
    exact List.not_mem_nil
  obtain ⟨hbuiltin, hinherited⟩ :=
    method_isExported builtin .javaScript (Script.rules false) hset apartText
  obtain ⟨declared, hdeclared, hname, -, -, hsame⟩ :=
    hinherited (hbuiltin builtin?_eq (by decide)) hnames apartMethod hmethod hnew apartClass hclass
      rfl
  refine ⟨builtin?_eq, hset, hnames, hmethod, hnew, hclass, rfl, rfl, rfl,
    ⟨declared, hdeclared, hname, ?_⟩, hlisted⟩
  by_contra hmark
  exact absurd (hsame.mpr (.inr (.inl (by simpa using hmark)))) (by decide)

/-- Under the built-in rules a method with a name that is not private does not always share the mark
of its class. -/
theorem not_forall_isExported_eq :
    ¬∀ (registry : RuleRegistry) (set : RuleSet) (text : String),
      builtin? = some registry → registry.get? .javaScript = some set →
      let found := allFindings (Source.ofText set text)
      let outline := registry.outline (some .javaScript) text
      (outline.classes.map ClassDecl.name).Nodup →
      (∀ f ∈ outline.functions, f.owner.isSome = true →
        f.key ∉ found.functions.map FunctionDecl.key) →
      ∀ c ∈ outline.classes, ∀ f ∈ outline.functions, f.owner = some c.name →
        f.isExported = inheritedMark f.name c.isExported := by
  intro h
  obtain ⟨hfunctions, -, houtline⟩ := outline_apartText
  have hsame := h builtin (Script.rules false) apartText builtin?_eq (get?_builtin false)
  simp only [houtline, hfunctions, List.forall_mem_singleton, List.map_singleton] at hsame
  exact absurd (hsame (List.nodup_singleton _) (fun _ => List.not_mem_nil) rfl) (by decide)

end RuleRegistry

end SourceRetrieval
