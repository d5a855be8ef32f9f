/-
The rules of Python.

Bodies are delimited by indentation; a leading underscore keeps a name private;
`__all__` lists what a module exports.
-/
import SourceRetrieval.Outline.Rules.Fragments

namespace SourceRetrieval.Outline.Python

/-- Words that open statements, not properties. -/
def reserved : List String :=
  ["else", "try", "finally", "pass", "return", "if", "elif", "for", "while", "with", "def",
    "class", "raise", "lambda"]

/-- Classes with their members. -/
def classRule : Option OutlineRule := do
  let pattern ← piecewise? [re r"^(?P<indent>[ \t]*)class[ \t]+(?P<name>\w+)[ \t]*",
    re r"(?:\((?P<bases>[^)]*)\))?[ \t]*:"]
  let members ← memberRules?
    [lineHead, re r"(?:async[ \t]+)?def[ \t]+(?P<name>\w+)[ \t]*", parameterList,
      re r"(?:[ \t]*->[ \t]*(?P<ret>[^:\n]+?))?[ \t]*:"]
    [lineHead, re r"(?P<name>[A-Za-z_]\w*)[ \t]*(?::[^=\n]*|=[^=\n])"]
    [re r"\bself\.(?P<name>[A-Za-z_]\w*)[ \t]*(?::[^=\n]+)?=[^=]"]
    reserved
  return .classes pattern .firstExtends members

/-- The rules of the language. -/
def rules? : Option RuleSet := do
  let rules ← [
    functionRule [re r"^(?P<indent>[ \t]*)(?:async[ \t]+)?def[ \t]+(?P<name>\w+)[ \t]*",
      parameterList, re r"[ \t]*(?:->[ \t]*(?P<ret>[^:\n]+?))?[ \t]*:"],
    classRule,
    importRule .nameList [lineHead, re r"import[ \t]+(?P<spec>[\w.]+(?:[ \t]+as[ \t]+\w+)?",
      re r"(?:[ \t]*,[ \t]*[\w.]+(?:[ \t]+as[ \t]+\w+)?)*)"],
    importRule .single [lineHead, re r"from[ \t]+(?P<spec>\.*[\w.]*)[ \t]+import\b"],
    exportRule .quotedList [re r"^__all__[ \t]*\+?=[ \t]*[\[(](?P<spec>[^\])]*)[\])]"]].mapM id
  return { exportRule := .underscore, body := .indentation, rules }

end SourceRetrieval.Outline.Python
