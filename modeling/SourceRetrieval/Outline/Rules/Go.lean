/-
The rules of Go.

A method names its type by its receiver, and a capital letter exports.
-/
import SourceRetrieval.Outline.Rules.Fragments

namespace SourceRetrieval.Outline.Go

/-- A declared type with its type parameters. -/
def declaredType : List Char := re r"^type[ \t]+(?P<name>\w+)(?:\[[^\]]*\])?"

/-- Structures with their fields. -/
def classRule : Option OutlineRule := do
  let pattern ← piecewise? [declaredType, re r"[ \t]+struct\b"]
  let members ← memberRules? []
    [lineHead, re r"(?P<name>[A-Za-z_]\w*)(?:[ \t]*,[ \t]*\w+)*[ \t]+[^\s/]"] [] []
  return .classes pattern .explicit members

/-- Named types that are neither structures nor interfaces. -/
def typeAliasRule : Option OutlineRule :=
  (piecewise? [declaredType, re r"[ \t]*=?[ \t]*(?P<target>[\w.*\[\]]+)"]).map
    (.types · ["struct", "interface"])

/-- The rules of the language. -/
def rules? : Option RuleSet := do
  let rules ← [
    functionRule [re r"^func[ \t]*(?:\((?P<receiver>[^)]*)\)[ \t]*)?(?P<name>\w+)[ \t]*",
      re r"(?:\[[^\]]*\])?[ \t]*", parameterList, re r"[ \t]*(?P<ret>[^\x7b\n]*)"],
    classRule,
    interfaceRule [declaredType, re r"[ \t]+interface\b"],
    typeAliasRule,
    importRule .single [re r#"^import[ \t]+(?:[\w.]+[ \t]+)?"(?P<spec>[^"]+)""#],
    importRule .quotedList [re r"^import[ \t]*\((?P<spec>[^)]*)\)"]].mapM id
  return { exportRule := .capitalized, body := .braces, rules }

end SourceRetrieval.Outline.Go
