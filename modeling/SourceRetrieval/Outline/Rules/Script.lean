/-
The rules of TypeScript and JavaScript.

The two share one table; TypeScript adds interfaces, type aliases and enums.
-/
import SourceRetrieval.Outline.Rules.Fragments

namespace SourceRetrieval.Outline.Script

/-- Words that open statements, not methods. -/
def reserved : List String :=
  ["if", "for", "while", "switch", "catch", "return", "function", "super", "new", "typeof",
    "await", "do", "else", "break", "continue", "case", "default", "throw", "delete", "void",
    "yield"]

/-- A declared identifier. -/
def declaredName : List Char := re r"(?P<name>[A-Za-z_$][\w$]*)"

/-- The exporting modifiers of a declaration. -/
def exporting : List Char := re r"(?P<export>export[ \t]+(?:default[ \t]+)?)?(?:declare[ \t]+)?"

/-- A specifier in quotes. -/
def quotedSpecifier : List Char := re r#"['"](?P<spec>[^'"\n]+)['"]"#

/-- An exported identifier. -/
def exportedName : List Char := re r"(?P<spec>[A-Za-z_$][\w$]*)"

/-- Function declarations, and functions bound to a name. -/
def functionRules : List (Option OutlineRule) :=
  [functionRule [lineHead, exporting, re r"(?:async[ \t]+)?function\b[ \t]*\*?[ \t]*", declaredName,
      space, re r"(?:<[^>(]*>)?[ \t]*", parameterList,
      re r"(?:[ \t]*:[ \t]*(?P<ret>[^\x7b;\n]+))?"],
    functionRule [lineHead, re r"(?P<export>export[ \t]+)?(?:const|let|var)[ \t]+", declaredName,
      space, re r"(?::[^=\n]+)?=[ \t]*(?:async[ \t]+)?",
      re r"(?:\((?P<params>[^)]*)\)|(?P<param>[A-Za-z_$][\w$]*))",
      re r"(?:[ \t]*:[ \t]*(?P<ret>[^=\n]+?))?[ \t]*=>"],
    functionRule [lineHead, re r"(?P<export>export[ \t]+)?(?:const|let|var)[ \t]+", declaredName,
      space, re r"=[ \t]*(?:async[ \t]+)?function\b[ \t]*\*?[ \t]*[\w$]*[ \t]*", parameterList]]

/-- Classes with their members. -/
def classRule : Option OutlineRule := do
  let pattern ← piecewise? [lineHead, exporting, re r"(?:abstract[ \t]+)?class[ \t]+",
    declaredName,
    re r"(?:[ \t]*<[^>\x7b]*>)?(?:[ \t]+extends[ \t]+(?P<extends>[\w$.]+)(?:<[^>\x7b]*>)?)?",
    re r"(?:[ \t]+implements[ \t]+(?P<implements>[^\x7b]+?))?\s*\x7b"]
  let members ← memberRules?
    [lineHead, re r"(?:(?:public|private|protected|static|readonly|async|abstract|override|declare",
      re r"|get|set)[ \t]+)*\*?(?P<name>#?[A-Za-z_$][\w$]*)[ \t]*\??[ \t]*(?:<[^>(]*>)?[ \t]*",
      parameterList, re r"(?:[ \t]*:[ \t]*(?P<ret>[^\x7b;\n]+?))?[ \t]*(?:\x7b|;|$)"]
    [lineHead,
      re r"(?:(?:public|private|protected|static|readonly|declare|override|accessor)[ \t]+)*",
      re r"(?P<name>#?[A-Za-z_$][\w$]*)[ \t]*[?!]?[ \t]*(?::[^;=()\x7b\x7d,\n]+)?[ \t]*(?:=|;|$)"]
    [] reserved
  return .classes pattern .explicit members

/-- Imports, re-exports and required modules. -/
def importRules : List (Option OutlineRule) :=
  [importRule .single [lineHead, re r#"import[ \t]+(?:type[ \t]+)?(?:[^'";]*?[ \t]from[ \t]*)?"#,
      quotedSpecifier],
    importRule .single [lineHead, re r"export[ \t]+(?:type[ \t]+)?",
      re r"(?:\*(?:[ \t]+as[ \t]+[\w$]+)?|\x7b[^\x7d]*\x7d)[ \t]*from[ \t]*", quotedSpecifier],
    importRule .single [re r"\brequire[ \t]*\([ \t]*", quotedSpecifier, re r"[ \t]*\)"],
    importRule .single [re r"\bimport[ \t]*\([ \t]*", quotedSpecifier, re r"[ \t]*\)"]]

/-- Exported declarations, export lists and assignments to the exports of a module. -/
def exportRules : List (Option OutlineRule) :=
  [exportRule .single [lineHead,
      re r"export[ \t]+(?:default[ \t]+)?(?:declare[ \t]+)?(?:async[ \t]+)?(?:abstract[ \t]+)?",
      re r"(?:function[ \t]*\*?[ \t]*|(?:const[ \t]+enum|class|const|let|var|interface|type|enum",
      re r"|namespace)[ \t]+)", exportedName],
    exportRule .commaList [lineHead, re r"export[ \t]*\x7b(?P<spec>[^\x7d]*)\x7d"],
    exportRule .single [lineHead, re r"export[ \t]+default[ \t]+", exportedName,
      re r"[ \t]*;?[ \t]*$"],
    exportRule .single [lineHead, re r"(?:module\.)?exports\.", exportedName, re r"[ \t]*="],
    exportRule .commaList [lineHead,
      re r"module\.exports[ \t]*=[ \t]*\x7b(?P<spec>[^\x7d]*)\x7d"],
    exportRule .single [lineHead, re r"module\.exports[ \t]*=[ \t]*", exportedName,
      re r"[ \t]*;?[ \t]*$"]]

/-- What TypeScript adds. -/
def typedRules : List (Option OutlineRule) :=
  [interfaceRule [lineHead, exporting, re r"interface[ \t]+", declaredName],
    typeRule [lineHead, re r"(?P<export>export[ \t]+)?(?:declare[ \t]+)?type[ \t]+", declaredName,
      re r"[ \t]*(?:<[^>=]*>)?[ \t]*="],
    typeRule [lineHead, re r"(?P<export>export[ \t]+)?(?:declare[ \t]+)?(?:const[ \t]+)?enum[ \t]+",
      declaredName]]

/-- The rules of the two languages; `typed` tells them apart. -/
def rules? (typed : Bool) : Option RuleSet := do
  let common := functionRules ++ [classRule] ++ importRules ++ exportRules
  let rules ← (if typed then common ++ typedRules else common).mapM id
  return { exportRule := .keyword "export", body := .braces, rules }

end SourceRetrieval.Outline.Script
