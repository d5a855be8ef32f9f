/-
The rules of C#.

One list holds the superclass and the interfaces of a class, told apart by the
capital I in front of the name of an interface.
-/
import SourceRetrieval.Outline.Rules.Java

namespace SourceRetrieval.Outline.CSharp

/-- Attributes in brackets in front of a declaration. -/
def attributes : List Char := re r"(?:\[[^\]\n]*\][ \t]*)*"

/-- Classes, structures and records with their members. -/
def classRule : Option OutlineRule := do
  let pattern ← piecewise? [lineHead, attributes,
    re r"(?P<export>(?:(?:public|private|protected|internal|abstract|sealed|static|partial",
    re r"|readonly|unsafe|file)[ \t]+)*)(?:class|struct|record(?:[ \t]+(?:class|struct))?)[ \t]+",
    re r"(?P<name>\w+)(?:[ \t]*<[^>\x7b]*>)?(?:[ \t]*\([^)]*\))?",
    re r"(?:[ \t]*:[ \t]*(?P<bases>[^\x7b;]+?))?\s*(?:where[^\x7b]*)?(?:\x7b|;)"]
  let members ← memberRules?
    [lineHead, attributes,
      re r"(?P<export>(?:(?:public|private|protected|internal|static|virtual|override|abstract",
      re r"|sealed|async|extern|unsafe|new|partial|readonly)[ \t]+)*)",
      re r"(?:(?P<ret>[\w.?]+(?:<[^()]*?>)?(?:\[\])*\??)[ \t]+)?(?P<name>[A-Za-z_]\w*)[ \t]*",
      re r"(?:<[^>(]*>)?[ \t]*", parameterList,
      re r"[ \t]*(?::[ \t]*(?:base|this)[ \t]*\([^)]*\))?[ \t]*(?:where[^\x7b]*)?\s*(?:\x7b|;|=>)"]
    [lineHead, attributes,
      re r"(?:(?:public|private|protected|internal|static|readonly|const|volatile|virtual|override",
      re r"|abstract|required|new)[ \t]+)*(?P<type>[\w.?]+(?:<[^()]*?>)?(?:\[\])*\??)[ \t]+",
      re r"(?P<name>[A-Za-z_]\w*)[ \t]*(?:=|;|\x7b|$)"]
    [] Java.reserved
  return .classes pattern .interfaceNames members

/-- The rules of the language. -/
def rules? : Option RuleSet := do
  let rules ← [
    classRule,
    interfaceRule [lineHead, attributes,
      re r"(?P<export>(?:(?:public|private|protected|internal|partial)[ \t]+)*)",
      re r"interface[ \t]+(?P<name>\w+)"],
    typeRule [lineHead, attributes,
      re r"(?P<export>(?:(?:public|private|protected|internal)[ \t]+)*)enum[ \t]+(?P<name>\w+)"],
    importRule .single [lineHead, re r"(?:global[ \t]+)?using[ \t]+(?:static[ \t]+)?",
      re r"(?:\w+[ \t]*=[ \t]*)?(?P<spec>[\w.]+)[ \t]*;"]].mapM id
  return { exportRule := .keyword "public", body := .braces, rules }

end SourceRetrieval.Outline.CSharp
