/-
Extraction that takes each text between two offsets by a slice.

* `Checked.outline` extracts an outline and stops at the first slice with a bound off a boundary;
* `outline_takes_slices` — as long as the patterns of the rules report matches that begin and end
  between characters, there is no such slice, and the outline is that of the text; and a machine
  reports no other matches.

Design notes: the outline is made in the steps of the extraction, with a slice wherever the text
between two offsets is looked at.  The slices depend on nothing but where the matches of rules begin
and end, and a match need not even begin before it ends.
-/
import SourceRetrieval.Proofs.Outline.CheckedBody
import SourceRetrieval.Proofs.Pattern.Boundaries

namespace SourceRetrieval

open Text Outline
open Pattern (Match)

/-- The pattern that a rule begins with. -/
def OutlineRule.pattern : OutlineRule → Pattern
  | functions pattern => pattern
  | classes pattern _ _ => pattern
  | methodBlocks pattern _ => pattern
  | interfaces pattern _ => pattern
  | types pattern _ => pattern
  | imports pattern _ => pattern
  | exports pattern _ => pattern

/-! ### The steps of an extraction -/

namespace Checked

variable (source : Source)

/-- The specifiers of a match, with their offset. -/
def specifiersAt (mode : SpecifierMode) (m : Match) : Except Misplaced (List (Nat × String)) :=
  match m.group? "spec" with
  | some spec => do
    let values ← specifiers mode spec.text
    return values.map fun value => (spec.start, value)
  | none => return []

/-- The specifiers that a pattern finds, with their offsets. -/
def specifiersOf (pattern : Pattern) (mode : SpecifierMode) :
    Except Misplaced (List (Nat × String)) := do
  let found ← (pattern.findAll source.chars).mapM (specifiersAt mode)
  return found.flatten

/-- Take in the member that begins at offset `start`, if there is one. -/
def addMember (members : MemberRules) (body : Body) (holder : Holder) (start : Nat) :
    Except Misplaced Holder := do
  let text ← window source.chars start body.stop memberWindow
  return takeMember source members holder start text

/-- Take in the attributes named anywhere in a body. -/
def addAttributes (members : MemberRules) (body : Body) (decl : ClassDecl) :
    Except Misplaced ClassDecl :=
  match members.field with
  | none => return decl
  | some pattern => do
    let text ← slice source.chars body.start body.stop
    let names := (pattern.findAll text).filterMap fun m => (m.group? "name").map groupText
    return { decl with properties := names.foldl pushUnique decl.properties }

/-- Look for the members of a class. -/
def membersOf (members : MemberRules) (decl : ClassDecl) (body : Option Body) :
    Except Misplaced Holder :=
  match body with
  | none => return (decl, [])
  | some body => do
    let (decl, methods) ← body.lines.foldlM (addMember source members body) (decl, [])
    let decl ← addAttributes source members body decl
    return (decl, methods)

/-- The class that a match declares, with its methods. -/
def classAt? (bases : BaseList) (members : MemberRules) (m : Match) :
    Except Misplaced (Option Holder) :=
  match m.group? "name" with
  | none => return none
  | some name => do
    let (superclass, interfaces) := matchBases m bases
    let decl : ClassDecl := {
      name := groupText name
      line := source.index.lineOf name.start
      methods := []
      properties := []
      extends? := superclass
      implements := interfaces
      isExported :=
        source.set.exportRule.isExported ((m.group? "export").map (·.text)) (groupText name) false }
    let headerIndent := match m.group? "indent" with
      | some group => byteLength group.text
      | none => 0
    let body ← bodyOf? source name.stop m.whole.stop headerIndent
    let holder ← membersOf source members decl body
    return some holder

/-- The methods of a method block and the trait it implements. -/
def blockAt? (members : MemberRules) (m : Match) :
    Except Misplaced (Option (List FunctionDecl × Option TraitUse)) :=
  match m.group? "target" with
  | none => return none
  | some target => do
    let holder : ClassDecl := {
      name := groupText target
      line := source.index.lineOf target.start
      methods := []
      properties := []
      extends? := none
      implements := []
      isExported := false }
    let body ← bodyOf? source target.stop target.stop 0
    let (_, methods) ← membersOf source members holder body
    let traitUse := (m.group? "trait").map fun group =>
      { target := holder.name, traitName := String.ofList (blockAt?.lastSegment group.text) }
    return some (methods, traitUse)

/-- What one rule finds. -/
def findings : OutlineRule → Except Misplaced Findings
  | .functions pattern => return { functions := functionsOf source pattern }
  | .classes pattern bases members => do
    let found ← (pattern.findAll source.chars).mapM (classAt? source bases members)
    let holders := found.filterMap id
    return { classes := holders.map (·.1), methods := holders.flatMap (·.2) }
  | .methodBlocks pattern members => do
    let found ← (pattern.findAll source.chars).mapM (blockAt? source members)
    let blocks := found.filterMap id
    return { methods := blocks.flatMap (·.1), traits := blocks.filterMap (·.2) }
  | .interfaces pattern reject => return { interfaces := typesOf source pattern reject }
  | .types pattern reject => return { types := typesOf source pattern reject }
  | .imports pattern mode => do
    let found ← specifiersOf source pattern mode
    return { imports := found }
  | .exports pattern mode => do
    let found ← specifiersOf source pattern mode
    return { exports := found }

/-- The outline of a text under the rules of a language. -/
def outline (set : RuleSet) (text : String) : Except Misplaced Outline := do
  let source := Source.ofText set text
  let found ← set.rules.foldlM (fun found rule => do
    let later ← findings source rule
    return found.append later) ({} : Findings)
  return found.toOutline set.exportRule

/-! ### Computations that take no misplaced slice -/

section Lists

variable {α β : Type} {list : List α}

/-- A list is worked through one entry after the other. -/
theorem mapM_eq_ok {work : α → Except Misplaced β} {expected : α → β}
    (h : ∀ x ∈ list, work x = .ok (expected x)) : list.mapM work = .ok (list.map expected) := by
  induction list with
  | nil => rfl
  | cons x xs ih =>
    obtain ⟨hx, hxs⟩ := List.forall_mem_cons.mp h
    rw [List.mapM_cons, hx, ok_bind, ih hxs, ok_bind]
    rfl

theorem foldlM_eq_ok {step : β → α → Except Misplaced β} {expected : β → α → β}
    (h : ∀ state, ∀ x ∈ list, step state x = .ok (expected state x)) (init : β) :
    list.foldlM step init = .ok (list.foldl expected init) := by
  induction list generalizing init with
  | nil => rfl
  | cons x xs ih =>
    rw [List.foldlM_cons, h init x List.mem_cons_self, ok_bind]
    exact ih (fun state y hy => h state y (List.mem_cons_of_mem _ hy)) _

end Lists

/-! ### The extraction -/

section Extraction

variable {source} {members : MemberRules} {body : Body} {start : Nat}

theorem addMember_eq_ok (hbody : body.IsPlaced source.chars) (hstart : start ∈ body.lines)
    (holder : Holder) :
    addMember source members body holder start
      = .ok (Outline.addMember source members body holder start) := by
  obtain ⟨hboundary, hle⟩ := hbody.lines start hstart
  rw [addMember, window_eq_ok hboundary hle hbody.stop.le, ok_bind]
  rfl

theorem addAttributes_eq_ok (hbody : body.IsPlaced source.chars) (decl : ClassDecl) :
    addAttributes source members body decl
      = .ok (Outline.addAttributes source members body decl) := by
  rw [addAttributes, Outline.addAttributes]
  cases members.field with
  | none => rfl
  | some pattern =>
    dsimp only
    rw [slice_eq_ok hbody.start hbody.stop hbody.le, ok_bind]
    rfl

theorem membersOf_eq_ok (decl : ClassDecl) {body : Option Body}
    (hbody : ∀ b ∈ body, b.IsPlaced source.chars) :
    membersOf source members decl body = .ok (Outline.membersOf source members decl body) := by
  cases body with
  | none => rfl
  | some body =>
    have hplaced := hbody body rfl
    rw [membersOf, foldlM_eq_ok fun holder start hstart => addMember_eq_ok hplaced hstart holder,
      ok_bind]
    dsimp only
    rw [addAttributes_eq_ok hplaced, ok_bind]
    rfl

theorem classAt?_eq_ok (bases : BaseList) {m : Match} (hm : m.IsPlaced source.chars) :
    classAt? source bases members m = .ok (Outline.classAt? source bases members m) := by
  rw [classAt?, Outline.classAt?]
  cases hname : m.group? "name" with
  | none => rfl
  | some name =>
    have hplaced := hm.of_group? hname
    dsimp only
    rw [bodyOf?_eq_ok hplaced.stop hm.whole.stop, ok_bind,
      membersOf_eq_ok _ fun body hbody => isPlaced_of_bodyOf? hm.whole.stop hbody, ok_bind]
    rfl

theorem blockAt?_eq_ok {m : Match} (hm : m.IsPlaced source.chars) :
    blockAt? source members m = .ok (Outline.blockAt? source members m) := by
  rw [blockAt?, Outline.blockAt?]
  cases htarget : m.group? "target" with
  | none => rfl
  | some target =>
    have hplaced := hm.of_group? htarget
    dsimp only
    rw [bodyOf?_eq_ok hplaced.stop hplaced.stop, ok_bind,
      membersOf_eq_ok _ fun body hbody => isPlaced_of_bodyOf? hplaced.stop hbody, ok_bind]
    rfl

/-- The strings of a specifier are taken from the text of its group alone. -/
theorem specifiersOf_eq_ok (pattern : Pattern) (mode : SpecifierMode) :
    specifiersOf source pattern mode = .ok (Outline.specifiersOf source pattern mode) := by
  have hentry : ∀ m : Match, specifiersAt mode m = .ok (match m.group? "spec" with
      | some spec => (Outline.specifiers mode spec.text).map fun value => (spec.start, value)
      | none => []) := by
    intro m
    rw [specifiersAt]
    cases m.group? "spec" with
    | none => rfl
    | some spec =>
      dsimp only
      rw [specifiers_eq_ok, ok_bind]
      rfl
  rw [specifiersOf, mapM_eq_ok fun m _ => hentry m, ok_bind]
  rfl

theorem findings_eq_ok {rule : OutlineRule} (hrule : rule.pattern.ReportsPlaced) :
    findings source rule = .ok (rule.findings source) := by
  cases rule with
  | functions | interfaces | types => rfl
  | classes pattern bases members =>
    have hfound : (pattern.findAll source.chars).mapM (classAt? source bases members)
        = .ok ((pattern.findAll source.chars).map (Outline.classAt? source bases members)) :=
      mapM_eq_ok fun m hm => classAt?_eq_ok bases (hrule source.chars m hm)
    rw [findings, hfound, ok_bind, List.filterMap_map]
    rfl
  | methodBlocks pattern members =>
    have hfound : (pattern.findAll source.chars).mapM (blockAt? source members)
        = .ok ((pattern.findAll source.chars).map (Outline.blockAt? source members)) :=
      mapM_eq_ok fun m hm => blockAt?_eq_ok (hrule source.chars m hm)
    rw [findings, hfound, ok_bind, List.filterMap_map]
    rfl
  | imports pattern mode =>
    rw [findings, specifiersOf_eq_ok, ok_bind]
    rfl
  | exports pattern mode =>
    rw [findings, specifiersOf_eq_ok, ok_bind]
    rfl

theorem outline_eq_ok {set : RuleSet} (hset : ∀ rule ∈ set.rules, rule.pattern.ReportsPlaced)
    (text : String) : outline set text = .ok (Outline.ofText set text) := by
  have hstep : ∀ found : Findings, ∀ rule ∈ set.rules, (do
      let later ← findings (Source.ofText set text) rule
      return found.append later)
        = Except.ok (found.append (rule.findings (Source.ofText set text))) := by
    intro found rule hrule
    rw [findings_eq_ok (hset rule hrule), ok_bind]
    rfl
  rw [outline, foldlM_eq_ok hstep, ok_bind]
  rfl

end Extraction

end Checked

/-- Whatever the patterns of the rules report, as long as their matches begin and end between
characters, each slice that an extraction takes lies between two boundaries in order, and the
outline of the text is made.  A machine reports such matches. -/
theorem outline_takes_slices (set : RuleSet) (text : String) :
    ((∀ rule ∈ set.rules, rule.pattern.ReportsPlaced) →
        Checked.outline set text = .ok (Outline.ofText set text))
      ∧ ∀ machine : Pattern.Machine, machine.toPattern.ReportsPlaced :=
  ⟨fun hset => Checked.outline_eq_ok hset text, Pattern.reportsPlaced_toPattern⟩

/-- The text up to an offset as the match of a declaration. -/
def nameUpTo (stop : Nat) (cs : List Char) : Match :=
  ⟨⟨0, stop, takeBytes stop cs⟩, [("name", ⟨0, stop, takeBytes stop cs⟩)]⟩

/-- A pattern whose only match is the text up to an offset. -/
def Pattern.upTo (stop : List Char → Nat) : Pattern where
  findAll cs := [nameUpTo (stop cs) cs]
  matchAtStart? cs := some (nameUpTo (stop cs) cs)
  hasGroup name := name == "name"

/-- Rules for classes and methods with such a pattern. -/
def RuleSet.classesUpTo (stop : List Char → Nat) : RuleSet where
  exportRule := .keyword "export"
  body := .braces
  rules := [.classes (.upTo stop) .explicit { method := some (.upTo stop) }]

/-- Up to the end of the first character a body can be read.  Up to the first byte, which is not a
whole character here, the text behind the name cannot be taken. -/
theorem outline_takes_slices_accents :
    let firstCharacter := RuleSet.classesUpTo fun cs => byteLength (cs.take 1)
    let firstByte := RuleSet.classesUpTo fun _ => 1
    let text := "é\x7bï\nm()\n\x7d"
    (∀ rule ∈ firstCharacter.rules, rule.pattern.ReportsPlaced)
      ∧ Checked.outline firstCharacter text = .ok (Outline.ofText firstCharacter text)
      ∧ ¬(∀ rule ∈ firstByte.rules, rule.pattern.ReportsPlaced)
      ∧ Checked.outline firstByte text = .error ⟨1, 11⟩ := by
  intro firstCharacter firstByte text
  have hplaced : ∀ rule ∈ firstCharacter.rules, rule.pattern.ReportsPlaced := by
    intro rule hrule cs m hm
    obtain rfl := List.mem_singleton.mp hrule
    obtain rfl := List.mem_singleton.mp hm
    have hstop : OnBoundary cs (byteLength (cs.take 1)) :=
      ⟨cs.take 1, cs.drop 1, (List.take_append_drop 1 cs).symm, rfl⟩
    exact ⟨⟨onBoundary_append [] cs, hstop⟩,
      List.forall_mem_singleton.mpr ⟨onBoundary_append [] cs, hstop⟩⟩
  have herror : Checked.outline firstByte text = .error ⟨1, 11⟩ := by decide
  refine ⟨hplaced, (outline_takes_slices firstCharacter text).1 hplaced, fun h => ?_, herror⟩
  cases herror.symm.trans ((outline_takes_slices firstByte text).1 h)

end SourceRetrieval
