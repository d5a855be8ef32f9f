/-
Extraction: from a text and the rules of a language to an outline.

* `Findings` is what the rules have found so far, `OutlineRule.findings` what
  one rule finds;
* `Findings.toOutline` merges the findings into an outline;
* `Outline.ofText` is the outline of a text.

Design notes: the findings of all rules are joined in the order of the rules
before anything is merged, so no rule depends on another.  A method seen by a
rule for functions and again in the body of its class is one function, found
by its name and line.  Specifiers are listed by where they stand in the text.
-/
import SourceRetrieval.Outline.Basic
import SourceRetrieval.Outline.Parameters
import SourceRetrieval.Outline.Body
import SourceRetrieval.Outline.Rule
import SourceRetrieval.Listing

namespace SourceRetrieval

open Text
open Pattern (Match Group)

/-- A method block names its type and the trait it implements. -/
structure TraitUse where
  target : String
  traitName : String

/-- What the rules of a language find in a text. -/
structure Findings where
  functions : List FunctionDecl := []
  /-- The methods found in bodies. -/
  methods : List FunctionDecl := []
  classes : List ClassDecl := []
  interfaces : List TypeDecl := []
  types : List TypeDecl := []
  /-- Import specifiers with their offsets. -/
  imports : List (Nat × String) := []
  /-- Export specifiers with their offsets. -/
  exports : List (Nat × String) := []
  traits : List TraitUse := []

namespace Findings

/-- The findings of two rules, one after the other. -/
def append (first second : Findings) : Findings :=
  { functions := first.functions ++ second.functions
    methods := first.methods ++ second.methods
    classes := first.classes ++ second.classes
    interfaces := first.interfaces ++ second.interfaces
    types := first.types ++ second.types
    imports := first.imports ++ second.imports
    exports := first.exports ++ second.exports
    traits := first.traits ++ second.traits }

end Findings

namespace Outline

/-- The longest text looked at from the start of a line inside a body, in bytes. -/
def memberWindow : Nat := 512

/-- The text that the rules of a language are applied to. -/
structure Source where
  chars : List Char
  index : LineIndex
  set : RuleSet

/-- Make a text ready for the rules of a language. -/
def Source.ofText (set : RuleSet) (text : String) : Source :=
  let chars := text.toList
  ⟨chars, LineIndex.ofChars chars, set⟩

/-- The text of a group. -/
def groupText (group : Group) : String := String.ofList group.text

/-- The parameters of a match. -/
def matchParameters (m : Match) : List String :=
  match (m.group? "params").or (m.group? "param") with
  | some group => splitParametersChars group.text
  | none => []

/-- The result type of a match, unless it is blank. -/
def matchReturnType (m : Match) : Option String := do
  let group ← m.group? "ret"
  let collapsed := collapseChars (dropEndWhile (· == '\x7b') group.text)
  if collapsed.isEmpty then none else some (String.ofList collapsed)

/-- The type that a receiver such as `s *Server` or `c *Cache[K]` names. -/
def receiverType? (receiver : List Char) : Option String := do
  let last ← (words receiver).getLast?
  let bare := (last.dropWhile (· == '*')).takeWhile (· != '[')
  if bare.isEmpty then none else some (String.ofList bare)

/-- The superclass and the interfaces of a match. -/
def matchBases (m : Match) (style : BaseList) : Option String × List String :=
  let listed := match m.group? "bases" with
    | some group => baseNames group.text
    | none => []
  match style with
  | .explicit =>
    let superclass := do
      let group ← m.group? "extends"
      let name := baseName group.text
      if name.isEmpty then none else some (String.ofList name)
    let interfaces := match m.group? "implements" with
      | some group => baseNames group.text
      | none => []
    (superclass, interfaces)
  | .firstExtends =>
    match listed.filter fun base => !base.toList.contains '=' with
    | [] => (none, [])
    | first :: others => (if first == "object" then none else some first, others)
  | .interfaceNames =>
    match listed.findIdx? fun base => !looksLikeInterface base with
    | some i => (listed[i]?, listed.eraseIdx i)
    | none => (none, listed)

/-- The specifiers that the text of a group stands for. -/
def specifiers (mode : SpecifierMode) (cs : List Char) : List String :=
  match mode with
  | .single =>
    let value := collapseChars cs
    if value.isEmpty then [] else [String.ofList value]
  | .commaList => commaNames cs
  | .quotedList => quotedStrings cs
  | .nameList => dottedNames cs

/-- The functions that a pattern finds. -/
def functionsOf (source : Source) (pattern : Pattern) : List FunctionDecl :=
  (pattern.findAll source.chars).filterMap fun m => do
    let name ← m.group? "name"
    return {
      name := groupText name
      line := source.index.lineOf name.start
      parameters := matchParameters m
      returnType := matchReturnType m
      isExported :=
        source.set.exportRule.isExported ((m.group? "export").map (·.text)) (groupText name) false
      owner := (m.group? "receiver").bind fun group => receiverType? group.text }

/-- The type declarations that a pattern finds. -/
def typesOf (source : Source) (pattern : Pattern) (reject : List String) : List TypeDecl :=
  (pattern.findAll source.chars).filterMap fun m => do
    if (m.group? "target").any fun target => reject.contains (groupText target) then none
    let name ← m.group? "name"
    return {
      name := groupText name
      line := source.index.lineOf name.start
      isExported :=
        source.set.exportRule.isExported ((m.group? "export").map (·.text)) (groupText name) false }

/-- The specifiers that a pattern finds, with their offsets. -/
def specifiersOf (source : Source) (pattern : Pattern) (mode : SpecifierMode) :
    List (Nat × String) :=
  (pattern.findAll source.chars).flatMap fun m =>
    match m.group? "spec" with
    | some spec => (specifiers mode spec.text).map fun value => (spec.start, value)
    | none => []

/-- The body of a class: `nameEnd` and `headerEnd` are where its name and its header
end, `headerIndent` is how far the header is indented. -/
def bodyOf? (source : Source) (nameEnd headerEnd headerIndent : Nat) : Option Body :=
  match source.set.body with
  | .braces =>
    (braceBody? source.chars nameEnd).map fun (opening, closing) =>
      ⟨opening, closing, braceLines source.chars opening closing⟩
  | .indentation =>
    (indentedBody? source.chars headerEnd headerIndent).map fun body =>
      ⟨body.start, body.stop, indentedLines source.chars body⟩

/-- The bounds of the text looked at from the start of a line inside a body. -/
def windowBounds (body : Body) (start : Nat) : Nat × Nat :=
  (start, min body.stop (start + memberWindow))

/-- Whether a group holds a reserved word. -/
def isReservedGroup (members : MemberRules) (group : Option Group)
    (shape : List Char → List Char) : Bool :=
  group.any fun g => members.reserved.contains (String.ofList (shape g.text))

/-- The method that a text at offset `start` begins with. -/
def methodAt? (source : Source) (members : MemberRules) (holder : ClassDecl) (start : Nat)
    (text : List Char) : Option FunctionDecl := do
  let pattern ← members.method
  let m ← pattern.matchAtStart? text
  let name ← m.group? "name"
  if isReservedGroup members (some name) id || isReservedGroup members (m.group? "ret") trim then
    none
  let modifiers :=
    if pattern.hasGroup "export" then some (((m.group? "export").map (·.text)).getD [])
    else none
  return {
    name := groupText name
    line := source.index.lineOf (start + name.start)
    parameters := matchParameters m
    returnType := matchReturnType m
    isExported := source.set.exportRule.isExported modifiers (groupText name) holder.isExported
    owner := some holder.name }

/-- The property that a text begins with. -/
def propertyAt? (members : MemberRules) (text : List Char) : Option String := do
  let pattern ← members.property
  let m ← pattern.matchAtStart? text
  let name ← m.group? "name"
  if isReservedGroup members (some name) id || isReservedGroup members (m.group? "type") id then
    none
  return groupText name

/-- A class with its members, and its methods as functions. -/
abbrev Holder := ClassDecl × List FunctionDecl

/-- Take in the member that a text at offset `start` begins with, if there is one. -/
def takeMember (source : Source) (members : MemberRules) (holder : Holder) (start : Nat)
    (text : List Char) : Holder :=
  let (decl, methods) := holder
  match methodAt? source members decl start text with
  | some method =>
    ({ decl with methods := pushUnique decl.methods method.name }, methods ++ [method])
  | none =>
    match propertyAt? members text with
    | some property => ({ decl with properties := pushUnique decl.properties property }, methods)
    | none => holder

/-- Take in the member that begins at offset `start`, if there is one. -/
def addMember (source : Source) (members : MemberRules) (body : Body) (holder : Holder)
    (start : Nat) : Holder :=
  let (first, last) := windowBounds body start
  takeMember source members holder start (cut first last source.chars)

/-- Take in the attributes named anywhere in a body. -/
def addAttributes (source : Source) (members : MemberRules) (body : Body) (decl : ClassDecl) :
    ClassDecl :=
  match members.field with
  | none => decl
  | some pattern =>
    let text := cut body.start body.stop source.chars
    let names := (pattern.findAll text).filterMap fun m => (m.group? "name").map groupText
    { decl with properties := names.foldl pushUnique decl.properties }

/-- Look for the members of a class. -/
def membersOf (source : Source) (members : MemberRules) (decl : ClassDecl) (body : Option Body) :
    Holder :=
  match body with
  | none => (decl, [])
  | some body =>
    let (decl, methods) := body.lines.foldl (addMember source members body) (decl, [])
    (addAttributes source members body decl, methods)

/-- The class that a match declares, with its methods. -/
def classAt? (source : Source) (bases : BaseList) (members : MemberRules) (m : Match) :
    Option Holder := do
  let name ← m.group? "name"
  let (superclass, interfaces) := matchBases m bases
  let decl : ClassDecl := {
    name := groupText name
    line := source.index.lineOf name.start
    methods := []
    properties := []
    extends? := superclass
    implements := interfaces
    isExported :=
      source.set.exportRule.isExported ((m.group? "export").map (·.text)) (groupText name) false }
  let headerIndent := match m.group? "indent" with
    | some group => byteLength group.text
    | none => 0
  return membersOf source members decl (bodyOf? source name.stop m.whole.stop headerIndent)

/-- The methods of a method block and the trait it implements. -/
def blockAt? (source : Source) (members : MemberRules) (m : Match) :
    Option (List FunctionDecl × Option TraitUse) := do
  let target ← m.group? "target"
  let holder : ClassDecl := {
    name := groupText target
    line := source.index.lineOf target.start
    methods := []
    properties := []
    extends? := none
    implements := []
    isExported := false }
  let (_, methods) := membersOf source members holder (bodyOf? source target.stop target.stop 0)
  let traitUse := (m.group? "trait").map fun group =>
    { target := holder.name, traitName := String.ofList (lastSegment group.text) }
  return (methods, traitUse)
where
  /-- What follows the last double colon. -/
  lastSegment (cs : List Char) : List Char := takeBack [] cs.reverse
  /-- Take characters from the end backwards up to a double colon. -/
  takeBack (taken : List Char) : List Char → List Char
    | ':' :: ':' :: _ => taken
    | c :: before => takeBack (c :: taken) before
    | [] => taken

end Outline

open Outline in
/-- What one rule finds. -/
def OutlineRule.findings (source : Source) : OutlineRule → Findings
  | functions pattern => { functions := functionsOf source pattern }
  | classes pattern bases members =>
    let found := (pattern.findAll source.chars).filterMap (classAt? source bases members)
    { classes := found.map (·.1), methods := found.flatMap (·.2) }
  | methodBlocks pattern members =>
    let found := (pattern.findAll source.chars).filterMap (blockAt? source members)
    { methods := found.flatMap (·.1), traits := found.filterMap (·.2) }
  | interfaces pattern reject => { interfaces := typesOf source pattern reject }
  | types pattern reject => { types := typesOf source pattern reject }
  | imports pattern mode => { imports := specifiersOf source pattern mode }
  | exports pattern mode => { exports := specifiersOf source pattern mode }

namespace Outline

/-- What all rules of a language find. -/
def allFindings (source : Source) : Findings :=
  source.set.rules.foldl (fun found rule => found.append (rule.findings source)) {}

/-- Change the first entry of a list that satisfies `p`. -/
def updateFirst {α : Type} (p : α → Bool) (change : α → α) : List α → List α
  | [] => []
  | x :: xs => if p x then change x :: xs else x :: updateFirst p change xs

/-- Add a method to the functions; one already there under its name and line only
learns its owner. -/
def mergeMethod (functions : List FunctionDecl) (method : FunctionDecl) : List FunctionDecl :=
  let isSame := fun (f : FunctionDecl) => f.name == method.name && f.line == method.line
  if functions.any isSame then
    updateFirst isSame (fun f => { f with owner := f.owner.or method.owner }) functions
  else functions ++ [method]

/-- List a function among the methods of its class. -/
def listMethod (classes : List ClassDecl) (f : FunctionDecl) : List ClassDecl :=
  match f.owner with
  | some owner =>
    updateFirst (·.name == owner) (fun c => { c with methods := pushUnique c.methods f.name }) classes
  | none => classes

/-- List a trait among the interfaces of the type that implements it. -/
def listTrait (classes : List ClassDecl) (use : TraitUse) : List ClassDecl :=
  updateFirst (·.name == use.target)
    (fun c => { c with implements := pushUnique c.implements use.traitName }) classes

/-- The values by their offsets, each listed where it stands first. -/
def orderedUnique (entries : List (Nat × String)) : List String :=
  ((sortOn (·.1) entries).map (·.2)).foldl pushUnique []

/-- The names of the exported declarations, by line. -/
def exportedNames (o : Outline) : List String :=
  let functions := o.functions.filter fun f => f.isExported && f.owner.isNone
  let classes := o.classes.filter (·.isExported)
  let types := (o.interfaces ++ o.types).filter (·.isExported)
  orderedUnique (functions.map (fun f => (f.line, f.name)) ++ classes.map (fun c => (c.line, c.name))
    ++ types.map (fun t => (t.line, t.name)))

/-- Mark the declarations whose names are exported. -/
def markExported (o : Outline) : Outline :=
  let listed := fun name => o.exports.contains name
  let mark := fun (t : TypeDecl) => if listed t.name then { t with isExported := true } else t
  { o with
    functions := o.functions.map fun f =>
      if f.owner.isNone && listed f.name then { f with isExported := true } else f
    classes := o.classes.map fun c => if listed c.name then { c with isExported := true } else c
    interfaces := o.interfaces.map mark
    types := o.types.map mark }

end Outline

open Outline in
/-- Merge the findings of a language into an outline. -/
def Findings.toOutline (found : Findings) (rule : ExportRule) : Outline :=
  -- A method is often found twice, by the rule for functions and as a member of its class.
  let functions := found.methods.foldl mergeMethod found.functions
  let classes := functions.foldl listMethod found.classes
  let classes := found.traits.foldl listTrait classes
  let sorted : Outline := {
    functions := sortOn (·.line) functions
    classes := sortOn (·.line) classes
    interfaces := sortOn (·.line) found.interfaces
    types := sortOn (·.line) found.types
    imports := orderedUnique found.imports
    exports := orderedUnique found.exports }
  -- Where a keyword exports, a declaration may also be exported apart, by its name.
  let marked := match rule with
    | .keyword _ => markExported sorted
    | _ => sorted
  if marked.exports.isEmpty then { marked with exports := exportedNames marked } else marked

/-- The outline of a text under the rules of a language. -/
def Outline.ofText (set : RuleSet) (text : String) : Outline :=
  (allFindings (Source.ofText set text)).toOutline set.exportRule

/-- The outline of a text; a language without rules has an empty one. -/
def RuleRegistry.outline (registry : RuleRegistry) (language : Option Language) (text : String) :
    Outline :=
  match language.bind registry.get? with
  | some set => Outline.ofText set text
  | none => {}

end SourceRetrieval
