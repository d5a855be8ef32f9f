/-
The rules of Java, and the words that its relatives reserve too.
-/
import SourceRetrieval.Outline.Rules.Fragments

namespace SourceRetrieval.Outline.Java

/-- Words that open statements or nested types, not members. -/
def reserved : List String :=
  ["if", "for", "while", "switch", "catch", "synchronized", "return", "new", "throw", "else",
    "try", "do", "class", "interface", "enum", "record", "struct", "event", "delegate", "using",
    "namespace", "lock", "foreach", "case", "yield", "await"]

/-- Classes, enums and records with their members. -/
def classRule : Option OutlineRule := do
  let pattern ← piecewise? [lineHead, re r"(?:@\w+(?:\([^)]*\))?\s+)*",
    re r"(?P<export>(?:(?:public|private|protected|abstract|static|final|sealed|non-sealed",
    re r"|strictfp)[ \t]+)*)(?:class|enum|record)[ \t]+(?P<name>\w+)(?:[ \t]*<[^\x7b]*?>)?",
    re r"(?:[ \t]*\([^)]*\))?(?:\s+extends\s+(?P<extends>[\w.]+)(?:<[^\x7b]*?>)?)?",
    re r"(?:\s+implements\s+(?P<implements>[^\x7b]+?))?\s*(?:permits[^\x7b]*)?\x7b"]
  let members ← memberRules?
    [lineHead, re r"(?:@\w+(?:\([^)]*\))?[ \t]+)*",
      re r"(?P<export>(?:(?:public|private|protected|static|final|abstract|synchronized|native",
      re r"|default|strictfp)[ \t]+)*)(?:<[^>]+>[ \t]+)?",
      re r"(?:(?P<ret>[\w.$]+(?:<[^()]*?>)?(?:\[\])*)[ \t]+)?(?P<name>[A-Za-z_$][\w$]*)[ \t]*",
      parameterList, re r"[ \t]*(?:throws[ \t]+[\w., \t]+)?\s*(?:\x7b|;)"]
    [lineHead, re r"(?:@\w+(?:\([^)]*\))?[ \t]+)*",
      re r"(?:(?:public|private|protected|static|final|transient|volatile)[ \t]+)*",
      re r"(?P<type>[\w.$]+(?:<[^()]*?>)?(?:\[\])*)[ \t]+(?P<name>[A-Za-z_$][\w$]*)[ \t]*(?:=|;)"]
    [] reserved
  return .classes pattern .explicit members

/-- The rules of the language. -/
def rules? : Option RuleSet := do
  let rules ← [
    classRule,
    interfaceRule [lineHead, re r"(?P<export>(?:(?:public|private|protected|abstract|static|sealed",
      re r"|non-sealed|strictfp)[ \t]+)*)@?interface[ \t]+(?P<name>\w+)"],
    importRule .single [lineHead, re r"import[ \t]+(?:static[ \t]+)?",
      re r"(?P<spec>[\w.]+(?:\.\*)?)[ \t]*;"]].mapM id
  return { exportRule := .keyword "public", body := .braces, rules }

end SourceRetrieval.Outline.Java
