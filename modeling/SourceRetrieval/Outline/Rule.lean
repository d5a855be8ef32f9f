/-
Rules for reading an outline off a text.

A rule is a pattern with named groups:

* `name` is the declared identifier, `params` (or `param` for a lone one) the
  parameter list, `ret` the result type, `export` the modifiers in front;
* `receiver` is the receiver of a function, `extends`, `implements` and `bases`
  are the base types of a class, `indent` is the indentation of its header;
* `target` and `trait` are what a block of methods is for, `spec` is an import
  or export specifier, `type` the type of a member.

Design notes: a language is an ordered set of rules in a registry, and a new
language is a new set, so the extraction itself knows no language.
-/
import SourceRetrieval.Language
import SourceRetrieval.Pattern.Matches

namespace SourceRetrieval

/-- How a declaration decides whether it is exported. -/
inductive ExportRule where
  /-- By a keyword among its modifiers. -/
  | keyword (word : String)
  /-- Unless its name begins with an underscore. -/
  | underscore
  /-- If its name begins with an upper-case letter. -/
  | capitalized
  deriving DecidableEq, Inhabited, Repr

/-- How the body of a class is delimited. -/
inductive BodyStyle where
  | braces
  | indentation
  deriving DecidableEq, Inhabited, Repr

/-- How the base types of a class are told apart. -/
inductive BaseList where
  /-- The groups `extends` and `implements` hold them. -/
  | explicit
  /-- The first of `bases` is the superclass. -/
  | firstExtends
  /-- The first of `bases` not named like an interface is the superclass. -/
  | interfaceNames
  deriving DecidableEq, Inhabited, Repr

/-- How the group `spec` is read. -/
inductive SpecifierMode where
  /-- As one specifier. -/
  | single
  /-- As a list of identifiers with aliases. -/
  | commaList
  /-- As the quoted strings in it. -/
  | quotedList
  /-- As a list of dotted names. -/
  | nameList
  deriving DecidableEq, Inhabited, Repr

/-- Rules for the lines directly inside a body. -/
structure MemberRules where
  method : Option Pattern := none
  property : Option Pattern := none
  /-- Looked for anywhere in the body. -/
  field : Option Pattern := none
  /-- Words that look like members but are not. -/
  reserved : List String := []

/-- One rule of a language. -/
inductive OutlineRule where
  | functions (pattern : Pattern)
  | classes (pattern : Pattern) (bases : BaseList) (members : MemberRules)
  /-- Methods of a type declared elsewhere. -/
  | methodBlocks (pattern : Pattern) (members : MemberRules)
  /-- Declarations whose `target` is one of `reject` are left out. -/
  | interfaces (pattern : Pattern) (reject : List String)
  | types (pattern : Pattern) (reject : List String)
  | imports (pattern : Pattern) (mode : SpecifierMode)
  | exports (pattern : Pattern) (mode : SpecifierMode)

/-- The rules of a language, in the order in which they apply. -/
structure RuleSet where
  exportRule : ExportRule
  body : BodyStyle
  rules : List OutlineRule

/-- Rule sets by language. -/
structure RuleRegistry where
  sets : List (Language × RuleSet)

namespace RuleRegistry

/-- The registry without languages. -/
def empty : RuleRegistry := ⟨[]⟩

/-- Add the rule set of a language, in place of the one it had. -/
def register (registry : RuleRegistry) (language : Language) (set : RuleSet) : RuleRegistry :=
  ⟨(language, set) :: registry.sets.filter (·.1 != language)⟩

/-- The rule set of a language. -/
def get? (registry : RuleRegistry) (language : Language) : Option RuleSet :=
  registry.sets.lookup language

/-- The languages of a registry, in the order of languages. -/
def languages (registry : RuleRegistry) : List Language :=
  Language.all.filter fun language => registry.sets.any (·.1 == language)

end RuleRegistry

namespace ExportRule

/-- Whether a declaration is exported, from the modifiers in front of it.  `fallback`
stands in for modifiers that a rule does not look for. -/
def isExported (rule : ExportRule) (modifiers : Option (List Char)) (name : String)
    (fallback : Bool) : Bool :=
  if name.toList.head? == some '#' then false
  else match rule with
    | keyword word =>
      match modifiers with
      | some text =>
        let pieces := Text.splitBy (fun c => !Unicode.isAlphanumeric c && c != '_') text
        pieces.any (· == word.toList)
      | none => fallback
    | underscore => name.toList.head? != some '_'
    | capitalized => name.toList.head?.any Unicode.isUppercase

end ExportRule

end SourceRetrieval
