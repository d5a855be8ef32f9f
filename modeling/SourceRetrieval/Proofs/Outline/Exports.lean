/-
What an outline lists as imported and as exported.

* `IsOrdered` — values in the order of the first of the numbered entries they come from;
* `orderedUnique_eq_iff` — specifiers and exported names are collected in that order, and it
  leaves no choice;
* `imports_allFindings` and `exports_allFindings` — specifiers are those that the rules read, one
  rule after the other;
* `isMarked_markExported` — where a keyword exports, what is exported by name is marked;
* `exports_consistent` — the exports of an outline are what the text exports by name or, if it
  does that nowhere, what is declared as exported, methods left out.

Design notes: entries with the same number are told apart by where they come first among all
entries.  So the order is pinned down without saying how it is sorted.
-/
import SourceRetrieval.Proofs.Outline.Inherited

namespace SourceRetrieval

open Text Outline

namespace Outline

variable {entries : List (Nat × String)} {values values' : List String}

/-! ### The order of first entries -/

/-- The values of numbered entries, each once, in the order of the smallest numbers they come with.
Of two values with the same smallest number the one listed first under it comes first. -/
structure IsOrdered (entries : List (Nat × String)) (values : List String) : Prop where
  nodup : values.Nodup
  mem_iff : ∀ value, value ∈ values ↔ ∃ n, (n, value) ∈ entries
  ordered : values.Pairwise fun a b => ∀ n, (n, b) ∈ entries →
    ∃ m, (m, a) ∈ entries ∧ (m < n ∨ m = n ∧ ComesFirst entries (m, a) (n, b))

/-- An entry that sorting by the number leaves in front of all of another kind comes first among
those with its number. -/
theorem comesFirst_of_sortOn {front back : List (Nat × String)} {n : Nat} {a b : String}
    (hsort : sortOn (·.1) entries = front ++ (n, a) :: back) (hb : (n, b) ∉ front) :
    ComesFirst entries (n, a) (n, b) := by
  have hfilter := filter_sortOn (·.1) n entries
  rw [hsort, List.filter_append, List.filter_cons_of_pos (by simp)] at hfilter
  obtain ⟨before, rest, rfl, hbefore, hrest⟩ := List.filter_eq_append_iff.mp hfilter.symm
  obtain ⟨between, after, rfl, hbetween, -, -⟩ := List.filter_eq_cons_iff.mp hrest
  refine ⟨before ++ between, after, by rw [List.append_assoc], fun hmem => ?_⟩
  rcases List.mem_append.mp hmem with hmem | hmem
  · have hkept : (n, b) ∈ before.filter fun x => x.1 = n := List.mem_filter.mpr ⟨hmem, by simp⟩
    rw [hbefore] at hkept
    exact hb (List.mem_filter.mp hkept).1
  · exact hbetween (n, b) hmem (by simp)

theorem isOrdered_orderedUnique (entries : List (Nat × String)) :
    IsOrdered entries (orderedUnique entries) where
  nodup := nodup_orderedUnique entries
  mem_iff value := by
    rw [mem_orderedUnique, List.mem_map]
    exact ⟨fun ⟨⟨n, _⟩, hmem, heq⟩ => ⟨n, heq ▸ hmem⟩, fun ⟨n, hmem⟩ => ⟨(n, value), hmem, rfl⟩⟩
  ordered := by
    have hcollected := pairwise_foldl_pushUnique (fun _ => Iff.rfl) .nil
      ((sortOn (·.1) entries).map (·.2))
    rw [List.nil_append] at hcollected
    refine hcollected.imp fun {a b} hfirst n hn => ?_
    obtain ⟨front, back, hvalues, hb⟩ := hfirst
    obtain ⟨front, rest, hsort, rfl, hrest⟩ := List.map_eq_append_iff.mp hvalues
    obtain ⟨⟨m, _⟩, back, rfl, rfl, -⟩ := List.map_eq_cons_iff.mp hrest
    have hout : (n, b) ∉ front := fun hmem => hb (List.mem_map_of_mem hmem)
    have hsorted := pairwise_sortOn (·.1) entries
    have hn' : (n, b) ∈ sortOn (·.1) entries := mem_sortOn.mpr hn
    rw [hsort] at hn'
    rw [hsort, List.pairwise_append, List.pairwise_cons] at hsorted
    refine ⟨m, mem_sortOn.mp (hsort ▸ List.mem_append_right _ List.mem_cons_self), ?_⟩
    have hle : m ≤ n := by
      rcases List.mem_cons.mp ((List.mem_append.mp hn').resolve_left hout) with heq | hmem
      · exact Nat.le_of_eq (congrArg Prod.fst heq).symm
      · exact hsorted.2.1.1 _ hmem
    refine (Nat.lt_or_eq_of_le hle).imp_right fun heq => ⟨heq, ?_⟩
    subst heq
    exact comesFirst_of_sortOn hsort hout

/-- The order of first entries leaves no choice. -/
theorem IsOrdered.unique (h : IsOrdered entries values) (h' : IsOrdered entries values') :
    values = values' := by
  have hperm : values.Perm values' := (List.perm_ext_iff_of_nodup h.nodup h'.nodup).mpr
    fun value => (h.mem_iff value).trans (h'.mem_iff value).symm
  refine hperm.eq_of_pairwise (fun a b _ hb hab hba => ?_) h.ordered h'.ordered
  obtain ⟨n, hn⟩ := (h'.mem_iff b).mp hb
  -- From an entry of `b` to one of `a` and back the numbers do not grow.
  induction n using Nat.strongRecOn with
  | ind n ih =>
    obtain ⟨m, hm, hmn⟩ := hab n hn
    obtain ⟨k, hk, hkm⟩ := hba m hm
    rcases hmn with hlt | ⟨rfl, hfirst⟩
    · exact ih k (by omega) hk
    · rcases hkm with hlt | ⟨rfl, hfirst'⟩
      · exact ih k hlt hk
      · exact congrArg Prod.snd (hfirst.antisymm hfirst')

theorem orderedUnique_eq_iff : orderedUnique entries = values ↔ IsOrdered entries values := by
  refine ⟨?_, fun h => (isOrdered_orderedUnique entries).unique h⟩
  rintro rfl
  exact isOrdered_orderedUnique entries

theorem orderedUnique_eq_nil_iff : orderedUnique entries = [] ↔ entries = [] := by
  rw [List.eq_nil_iff_forall_not_mem, List.eq_nil_iff_forall_not_mem]
  simp only [mem_orderedUnique, List.mem_map, not_exists, not_and]
  exact ⟨fun h entry hentry => h entry.2 entry hentry rfl,
    fun h _ entry hentry => absurd hentry (h entry)⟩

/-! ### Marks -/

/-- What an outline lists as exported is marked: functions without owner, classes, interfaces and
types. -/
structure IsMarked (o : Outline) : Prop where
  functions : ∀ f ∈ o.functions, f.owner = none → f.name ∈ o.exports → f.isExported = true
  classes : ∀ c ∈ o.classes, c.name ∈ o.exports → c.isExported = true
  types : ∀ t ∈ o.interfaces ++ o.types, t.name ∈ o.exports → t.isExported = true

theorem isMarked_markExported (o : Outline) : (markExported o).IsMarked := by
  refine ⟨?_, ?_, ?_⟩
  · rw [functions_markExported, List.forall_mem_map]
    intro f _ howner hname
    have hnone : f.owner.isNone = true := Option.isNone_iff_eq_none.mpr howner
    have hlisted : o.exports.contains f.name = true := List.contains_iff_mem.mpr hname
    simp only [hnone, hlisted, Bool.and_self, Bool.true_or]
  · rw [classes_markExported, List.forall_mem_map]
    intro c _ hname
    have hlisted : o.exports.contains c.name = true := List.contains_iff_mem.mpr hname
    simp only [hlisted, Bool.true_or]
  · intro t ht hname
    have hmark : ∃ t' : TypeDecl,
        t = if o.exports.contains t'.name then { t' with isExported := true } else t' := by
      rcases List.mem_append.mp ht with ht | ht
      · obtain ⟨t', -, heq⟩ := List.mem_map.mp ht
        exact ⟨t', heq.symm⟩
      · obtain ⟨t', -, heq⟩ := List.mem_map.mp ht
        exact ⟨t', heq.symm⟩
    obtain ⟨t', rfl⟩ := hmark
    by_cases hlisted : o.exports.contains t'.name = true
    · rw [if_pos hlisted]
    · rw [if_neg hlisted] at hname
      exact absurd (List.contains_iff_mem.mpr hname) hlisted

/-- The exported declarations with their lines: functions without owner, classes, interfaces and
types. -/
def exportedDeclarations (o : Outline) : List (Nat × String) :=
  (o.functions.filter fun f => f.isExported && f.owner.isNone).map (fun f => (f.line, f.name))
    ++ (o.classes.filter (·.isExported)).map (fun c => (c.line, c.name))
    ++ ((o.interfaces ++ o.types).filter (·.isExported)).map (fun t => (t.line, t.name))

/-! ### What the rules read -/

/-- The import specifiers that the rules read, with their offsets, in the order of the rules. -/
def importEntries (source : Source) : List (Nat × String) :=
  source.set.rules.flatMap fun
    | .imports pattern mode => specifiersOf source pattern mode
    | _ => []

/-- The export specifiers that the rules read, with their offsets, in the order of the rules. -/
def exportEntries (source : Source) : List (Nat × String) :=
  source.set.rules.flatMap fun
    | .exports pattern mode => specifiersOf source pattern mode
    | _ => []

/-- What all rules find of one kind is what each of them finds, one after the other. -/
theorem part_allFindings {β : Type} (part : Findings → List β) (hempty : part {} = [])
    (happend : ∀ first second, part (first.append second) = part first ++ part second)
    (source : Source) :
    part (allFindings source)
      = source.set.rules.flatMap fun rule => part (rule.findings source) := by
  have hrules : ∀ (rules : List OutlineRule) (found : Findings),
      part (rules.foldl (fun found rule => found.append (rule.findings source)) found)
        = part found ++ rules.flatMap fun rule => part (rule.findings source) := by
    intro rules
    induction rules with
    | nil => exact fun found => (List.append_nil _).symm
    | cons rule rules ih =>
      intro found
      rw [List.foldl_cons, ih, happend, List.flatMap_cons, List.append_assoc]
  rw [allFindings, hrules, hempty, List.nil_append]

theorem imports_allFindings (source : Source) :
    (allFindings source).imports = importEntries source := by
  rw [part_allFindings Findings.imports rfl (fun _ _ => rfl), importEntries]
  congr 1
  funext rule
  cases rule <;> rfl

theorem exports_allFindings (source : Source) :
    (allFindings source).exports = exportEntries source := by
  rw [part_allFindings Findings.exports rfl (fun _ _ => rfl), exportEntries]
  congr 1
  funext rule
  cases rule <;> rfl

end Outline

namespace Findings

variable {found : Findings} {rule : ExportRule}

/-- The outline before names are derived from what is exported. -/
def marked (found : Findings) (rule : ExportRule) : Outline :=
  match rule with
  | .keyword _ => markExported found.sorted
  | _ => found.sorted

theorem exports_marked (found : Findings) (rule : ExportRule) :
    (found.marked rule).exports = orderedUnique found.exports := by
  cases rule <;> rfl

theorem toOutline_of_exports_ne_nil (h : found.exports ≠ []) :
    found.toOutline rule = found.marked rule := by
  have hexports : ¬(found.marked rule).exports.isEmpty = true := by
    rw [exports_marked, List.isEmpty_iff, orderedUnique_eq_nil_iff]
    exact h
  exact if_neg hexports

theorem toOutline_of_exports_eq_nil (h : found.exports = []) :
    found.toOutline rule
      = { found.marked rule with exports := exportedNames (found.marked rule) } := by
  have hexports : (found.marked rule).exports.isEmpty = true := by
    rw [exports_marked, List.isEmpty_iff, orderedUnique_eq_nil_iff]
    exact h
  exact if_pos hexports

end Findings

namespace Outline

/-! ### Outlines -/

theorem imports_ofText (set : RuleSet) (text : String) :
    (Outline.ofText set text).imports = orderedUnique (importEntries (Source.ofText set text)) := by
  obtain ⟨⟨_, _, _, -, -, -, -, himports⟩, -⟩ :=
    marks_toOutline (allFindings (Source.ofText set text)) set.exportRule
  rw [← imports_allFindings]
  exact himports

/-- What is imported, and what is exported by name, is listed in the order of the offsets that the
patterns of the rules report for it, whatever the patterns are.  Where a keyword exports, the
declarations so named are marked.  If nothing is exported by name, the exported declarations are
listed, methods left out, in the order of the line on which the first of each name stands. -/
theorem exports_consistent (set : RuleSet) (text : String) :
    let source := Source.ofText set text
    let outline := Outline.ofText set text
    (∀ names, outline.imports = names ↔ IsOrdered (importEntries source) names)
      ∧ (exportEntries source ≠ [] →
        (∀ names, outline.exports = names ↔ IsOrdered (exportEntries source) names)
          ∧ ∀ word, set.exportRule = .keyword word → outline.IsMarked)
      ∧ (exportEntries source = [] →
        ∀ names, outline.exports = names ↔ IsOrdered (exportedDeclarations outline) names) := by
  intro source outline
  have hexports := exports_allFindings source
  refine ⟨fun names => ?_, fun hnamed => ⟨fun names => ?_, fun word hword => ?_⟩,
    fun hunnamed names => ?_⟩
  · rw [← orderedUnique_eq_iff, ← imports_ofText]
  · rw [← hexports] at hnamed
    have houtline : outline = (allFindings source).marked set.exportRule :=
      Findings.toOutline_of_exports_ne_nil hnamed
    rw [houtline, Findings.exports_marked, hexports, orderedUnique_eq_iff]
  · rw [← hexports] at hnamed
    have houtline : outline = (allFindings source).marked set.exportRule :=
      Findings.toOutline_of_exports_ne_nil hnamed
    rw [houtline, hword]
    exact isMarked_markExported _
  · rw [← hexports] at hunnamed
    have houtline : outline = { (allFindings source).marked set.exportRule with
        exports := exportedNames ((allFindings source).marked set.exportRule) } :=
      Findings.toOutline_of_exports_eq_nil hunnamed
    have hlisted : outline.exports = orderedUnique (exportedDeclarations outline) := by
      rw [houtline]
      rfl
    rw [hlisted, orderedUnique_eq_iff]

/-- A class with one method in Python. -/
def methodText : String := "class A:\n  def m(self):\n    pass\n"

/-- Under the rules of JavaScript a class exported by its name is marked.  Under those of Python,
where no export is named, an exported class is listed and its method, which is exported too, is
not. -/
theorem exports_consistent_apart :
    let source := Source.ofText (Script.rules false) RuleRegistry.apartText
    let named := Outline.ofText (Script.rules false) RuleRegistry.apartText
    let derived := Outline.ofText Python.rules methodText
    exportEntries source = [(29, "A")] ∧ named.exports = ["A"] ∧ named.IsMarked
      ∧ exportEntries (Source.ofText Python.rules methodText) = []
      ∧ derived.functions.map (fun f => (f.name, f.isExported)) = [("m", true)]
      ∧ exportedDeclarations derived = [(1, "A")] ∧ derived.exports = ["A"] := by
  obtain ⟨-, hentries, -⟩ := RuleRegistry.outline_apartText
  rw [exports_allFindings] at hentries
  obtain ⟨hnone, hfunctions, hdeclared⟩ :
      exportEntries (Source.ofText Python.rules methodText) = []
        ∧ (Outline.ofText Python.rules methodText).functions.map
          (fun f => (f.name, f.isExported)) = [("m", true)]
        ∧ exportedDeclarations (Outline.ofText Python.rules methodText) = [(1, "A")] := by
    decide +kernel
  have hordered : ∀ n, IsOrdered [(n, "A")] ["A"] := fun n => orderedUnique_eq_iff.mp (by
    rw [orderedUnique, sortOn, List.mergeSort_singleton]
    rfl)
  obtain ⟨-, hnamed, -⟩ := exports_consistent (Script.rules false) RuleRegistry.apartText
  obtain ⟨hexports, hmarked⟩ := hnamed (by rw [hentries]; exact List.cons_ne_nil _ _)
  obtain ⟨-, -, hderived⟩ := exports_consistent Python.rules methodText
  refine ⟨hentries, ?_, hmarked "export" (Script.exportRule_rules false), hnone, hfunctions,
    hdeclared, ?_⟩
  · refine (hexports _).mpr ?_
    rw [hentries]
    exact hordered 29
  · refine (hderived hnone _).mpr ?_
    rw [hdeclared]
    exact hordered 1

end Outline

end SourceRetrieval
