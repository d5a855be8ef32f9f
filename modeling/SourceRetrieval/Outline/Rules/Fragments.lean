/-
Pieces that the patterns of several languages share, and rules made of pieces.

Design notes: a pattern is written as a list of pieces, one to a line, which
are joined and compiled with `^` and `$` holding at every line.  Braces are
written by their codes.
-/
import SourceRetrieval.Outline.Rule
import SourceRetrieval.Pattern.Matching

namespace SourceRetrieval.Outline

/-- The characters of a part of a pattern.  They are known once the literal is unified with them,
so nothing has to decode it. -/
def re (text : String) {cs : List Char} (_ : text = String.ofList cs := by rfl) : List Char := cs

theorem re_eq {text : String} {cs : List Char} (h : text = String.ofList cs) :
    re text h = text.toList := by
  subst h
  exact String.toList_ofList.symm

/-- The beginning of a line and its indentation. -/
def lineHead : List Char := re r"^[ \t]*"

/-- Blanks within a line, or none. -/
def space : List Char := re r"[ \t]*"

/-- A parameter list in parentheses. -/
def parameterList : List Char := re r"\((?P<params>[^)]*)\)"

/-- Compile a pattern given in pieces. -/
def piecewise? (pieces : List (List Char)) : Option Pattern :=
  Pattern.ofLines? pieces.flatten

/-- A rule for functions. -/
def functionRule (pieces : List (List Char)) : Option OutlineRule :=
  (piecewise? pieces).map .functions

/-- A rule for interfaces. -/
def interfaceRule (pieces : List (List Char)) : Option OutlineRule :=
  (piecewise? pieces).map (.interfaces · [])

/-- A rule for other named types. -/
def typeRule (pieces : List (List Char)) : Option OutlineRule :=
  (piecewise? pieces).map (.types · [])

/-- A rule for imports. -/
def importRule (mode : SpecifierMode) (pieces : List (List Char)) : Option OutlineRule :=
  (piecewise? pieces).map (.imports · mode)

/-- A rule for exports. -/
def exportRule (mode : SpecifierMode) (pieces : List (List Char)) : Option OutlineRule :=
  (piecewise? pieces).map (.exports · mode)

/-- The rules of a body, from the patterns of methods, properties and fields; no
pieces, no pattern. -/
def memberRules? (method property field : List (List Char)) (reserved : List String) :
    Option MemberRules := do
  return { method := ← some? method, property := ← some? property, field := ← some? field, reserved }
where
  /-- Compile a pattern if there are any pieces. -/
  some? (pieces : List (List Char)) : Option (Option Pattern) :=
    if pieces.isEmpty then some none else (piecewise? pieces).map some

end SourceRetrieval.Outline
