/-
What the rules of a language find in a text.

Findings are sound (`Findings.IsSound`) if every declaration stands on a line of the text
and the members of a class are listed once each, its methods being among those found.

* `Holder.IsSound.takeMember` — to take in one more member leaves a class sound, and
  `isSound_membersOf` says so of a whole body;
* `isSound_findings` — what one rule finds is sound, whatever its patterns match;
* `isSound_allFindings` — so is what all rules find together.

Design notes: a line is one more than a number of newlines, so it is a line of the text
wherever a pattern says that a name begins.
-/
import SourceRetrieval.Outline.Extract
import SourceRetrieval.Proofs.Listing

namespace SourceRetrieval

open Text

/-- A text of so many lines has this line. -/
def IsLine (count line : Nat) : Prop := 1 ≤ line ∧ line ≤ count

theorem isLine_lineOf (index : LineIndex) (offset : Nat) :
    IsLine index.lineCount (index.lineOf offset) := by
  have hle : index.breaks.countP (· < offset) ≤ index.breaks.length := List.countP_le_length
  rw [LineIndex.lineCount, LineIndex.lineOf]
  exact ⟨by omega, by omega⟩

/-- No method and no property of a class is listed twice. -/
def ClassDecl.ListsOnce (decl : ClassDecl) : Prop := decl.methods.Nodup ∧ decl.properties.Nodup

/-- Every declaration stands on a line of a text of so many lines, and a class lists its members
once each, its methods being among those found. -/
structure Findings.IsSound (count : Nat) (found : Findings) : Prop where
  functions : ∀ f ∈ found.functions, IsLine count f.line
  methods : ∀ m ∈ found.methods, IsLine count m.line
  classes : ∀ c ∈ found.classes, IsLine count c.line
  interfaces : ∀ t ∈ found.interfaces, IsLine count t.line
  types : ∀ t ∈ found.types, IsLine count t.line
  members : ∀ c ∈ found.classes, c.ListsOnce
  known : ∀ c ∈ found.classes, ∀ name ∈ c.methods, ∃ m ∈ found.methods, m.name = name

namespace Outline

/-- The same of one class with the methods found in its body. -/
structure Holder.IsSound (count : Nat) (holder : Holder) : Prop where
  line : IsLine count holder.1.line
  members : holder.1.ListsOnce
  methods : ∀ m ∈ holder.2, IsLine count m.line
  known : ∀ name ∈ holder.1.methods, ∃ m ∈ holder.2, m.name = name

variable {source : Source} {members : MemberRules}

/-! ### The members of a class -/

theorem isLine_of_methodAt {decl : ClassDecl} {start : Nat} {text : List Char}
    {method : FunctionDecl} (h : methodAt? source members decl start text = some method) :
    IsLine source.index.lineCount method.line := by
  simp only [methodAt?, Option.bind_eq_bind, Option.bind_eq_some_iff] at h
  obtain ⟨pattern, -, m, -, name, -, h⟩ := h
  split at h
  · cases h
  · cases h
    exact isLine_lineOf _ _

theorem Holder.IsSound.takeMember {holder : Holder} (h : holder.IsSound source.index.lineCount)
    (start : Nat) (text : List Char) :
    (takeMember source members holder start text).IsSound source.index.lineCount := by
  obtain ⟨decl, methods⟩ := holder
  rw [Outline.takeMember]
  split
  next method hmethod =>
    refine ⟨h.line, ⟨nodup_pushUnique h.members.1 _, h.members.2⟩, fun m hm => ?_,
      fun name hname => ?_⟩
    · rcases List.mem_append.mp hm with hm | hm
      · exact h.methods m hm
      · rw [List.mem_singleton.mp hm]
        exact isLine_of_methodAt hmethod
    · rcases mem_pushUnique.mp hname with hname | rfl
      · obtain ⟨m, hm, hname⟩ := h.known name hname
        exact ⟨m, List.mem_append_left _ hm, hname⟩
      · exact ⟨method, by simp, rfl⟩
  · split
    · exact ⟨h.line, ⟨h.members.1, nodup_pushUnique h.members.2 _⟩, h.methods, h.known⟩
    · exact h

theorem Holder.IsSound.addAttributes {holder : Holder} {count : Nat} (h : holder.IsSound count)
    (body : Body) :
    Holder.IsSound count (addAttributes source members body holder.1, holder.2) := by
  rw [Outline.addAttributes]
  cases members.field with
  | none => exact h
  | some pattern =>
    exact ⟨h.line, ⟨h.members.1, nodup_foldl_pushUnique h.members.2 _⟩, h.methods, h.known⟩

theorem isSound_membersOf {decl : ClassDecl} (hline : IsLine source.index.lineCount decl.line)
    (hmethods : decl.methods = []) (hproperties : decl.properties = []) (body : Option Body) :
    (membersOf source members decl body).IsSound source.index.lineCount := by
  have hbegin : Holder.IsSound source.index.lineCount (decl, []) := by
    refine ⟨hline, ?_, by nofun, ?_⟩
    · show decl.methods.Nodup ∧ decl.properties.Nodup
      rw [hmethods, hproperties]
      exact ⟨List.nodup_nil, List.nodup_nil⟩
    · show ∀ name ∈ decl.methods, _
      rw [hmethods]
      nofun
  cases body with
  | none => exact hbegin
  | some body =>
    have hlines : Holder.IsSound source.index.lineCount
        (body.lines.foldl (addMember source members body) (decl, [])) :=
      List.foldlRecOn _ _ hbegin fun holder hholder start _ => hholder.takeMember start _
    exact hlines.addAttributes body

theorem isSound_classAt {bases : BaseList} {m : Pattern.Match} {holder : Holder}
    (h : classAt? source bases members m = some holder) :
    holder.IsSound source.index.lineCount := by
  simp only [classAt?, Option.bind_eq_bind, Option.bind_eq_some_iff] at h
  obtain ⟨name, -, h⟩ := h
  cases h
  exact isSound_membersOf (isLine_lineOf _ _) rfl rfl _

theorem isLine_of_blockAt {m : Pattern.Match} {found : List FunctionDecl × Option TraitUse}
    (h : blockAt? source members m = some found) :
    ∀ method ∈ found.1, IsLine source.index.lineCount method.line := by
  simp only [blockAt?, Option.bind_eq_bind, Option.bind_eq_some_iff] at h
  obtain ⟨target, -, h⟩ := h
  cases h
  exact (isSound_membersOf (isLine_lineOf _ _) rfl rfl _).methods

/-! ### The findings of a rule -/

theorem isLine_of_mem_functionsOf {pattern : Pattern} {f : FunctionDecl}
    (h : f ∈ functionsOf source pattern) : IsLine source.index.lineCount f.line := by
  obtain ⟨m, -, hm⟩ := List.mem_filterMap.mp h
  simp only [Option.bind_eq_bind, Option.bind_eq_some_iff] at hm
  obtain ⟨name, -, hm⟩ := hm
  cases hm
  exact isLine_lineOf _ _

theorem isLine_of_mem_typesOf {pattern : Pattern} {reject : List String} {t : TypeDecl}
    (h : t ∈ typesOf source pattern reject) : IsLine source.index.lineCount t.line := by
  obtain ⟨m, -, hm⟩ := List.mem_filterMap.mp h
  split at hm
  · cases hm
  · simp only [Option.bind_eq_bind, Option.bind_eq_some_iff] at hm
    obtain ⟨name, -, hm⟩ := hm
    cases hm
    exact isLine_lineOf _ _

end Outline

open Outline

namespace Findings

variable {count : Nat}

theorem isSound_empty : IsSound count {} :=
  ⟨by nofun, by nofun, by nofun, by nofun, by nofun, by nofun, by nofun⟩

theorem IsSound.append {first second : Findings} (h : first.IsSound count)
    (h' : second.IsSound count) : (first.append second).IsSound count where
  functions f hf := (List.mem_append.mp hf).elim (h.functions f) (h'.functions f)
  methods m hm := (List.mem_append.mp hm).elim (h.methods m) (h'.methods m)
  classes c hc := (List.mem_append.mp hc).elim (h.classes c) (h'.classes c)
  interfaces t ht := (List.mem_append.mp ht).elim (h.interfaces t) (h'.interfaces t)
  types t ht := (List.mem_append.mp ht).elim (h.types t) (h'.types t)
  members c hc := (List.mem_append.mp hc).elim (h.members c) (h'.members c)
  known c hc name hname := by
    rcases List.mem_append.mp hc with hc | hc
    · obtain ⟨m, hm, hmname⟩ := h.known c hc name hname
      exact ⟨m, List.mem_append_left _ hm, hmname⟩
    · obtain ⟨m, hm, hmname⟩ := h'.known c hc name hname
      exact ⟨m, List.mem_append_right _ hm, hmname⟩

end Findings

theorem OutlineRule.isSound_findings (source : Source) (rule : OutlineRule) :
    (rule.findings source).IsSound source.index.lineCount := by
  cases rule with
  | functions pattern =>
    exact { Findings.isSound_empty with functions := fun f hf => isLine_of_mem_functionsOf hf }
  | classes pattern bases members =>
    have hfound : ∀ holder ∈ (pattern.findAll source.chars).filterMap
        (classAt? source bases members), holder.IsSound source.index.lineCount := by
      intro holder hholder
      obtain ⟨m, -, hm⟩ := List.mem_filterMap.mp hholder
      exact isSound_classAt hm
    refine { Findings.isSound_empty with
      methods := fun f hf => ?_, classes := fun c hc => ?_, members := fun c hc => ?_,
      known := fun c hc name hname => ?_ }
    · obtain ⟨holder, hholder, hf⟩ := List.mem_flatMap.mp hf
      exact (hfound holder hholder).methods f hf
    · obtain ⟨holder, hholder, rfl⟩ := List.mem_map.mp hc
      exact (hfound holder hholder).line
    · obtain ⟨holder, hholder, rfl⟩ := List.mem_map.mp hc
      exact (hfound holder hholder).members
    · obtain ⟨holder, hholder, rfl⟩ := List.mem_map.mp hc
      obtain ⟨m, hm, hmname⟩ := (hfound holder hholder).known name hname
      exact ⟨m, List.mem_flatMap.mpr ⟨holder, hholder, hm⟩, hmname⟩
  | methodBlocks pattern members =>
    refine { Findings.isSound_empty with methods := fun f hf => ?_, known := by nofun }
    obtain ⟨found, hfound, hf⟩ := List.mem_flatMap.mp hf
    obtain ⟨m, -, hm⟩ := List.mem_filterMap.mp hfound
    exact isLine_of_blockAt hm f hf
  | interfaces pattern reject =>
    exact { Findings.isSound_empty with interfaces := fun t ht => isLine_of_mem_typesOf ht }
  | types pattern reject =>
    exact { Findings.isSound_empty with types := fun t ht => isLine_of_mem_typesOf ht }
  | imports pattern mode => exact { Findings.isSound_empty with }
  | exports pattern mode => exact { Findings.isSound_empty with }

theorem Outline.isSound_allFindings (source : Source) :
    (allFindings source).IsSound source.index.lineCount :=
  List.foldlRecOn _ _ Findings.isSound_empty
    fun _ hfound rule _ => hfound.append (rule.isSound_findings source)

end SourceRetrieval
