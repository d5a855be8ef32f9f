/-
The outline of a file as text, one declaration a line.
-/
import SourceRetrieval.Analysis
import SourceRetrieval.Render.Markdown

namespace SourceRetrieval.Render

/-- Where a declaration stands. -/
def atLine (line : Nat) : String := " (line " ++ toString line ++ ")"

/-- The line of a class. -/
def classLine (c : ClassDecl) : String :=
  "  class " ++ c.name ++ atLine c.line
    ++ (c.extends?.map fun base => " extends " ++ base).getD ""
    ++ if c.implements.isEmpty then "" else " implements " ++ ", ".intercalate c.implements

/-- The line of a function. -/
def functionLine (f : FunctionDecl) : String :=
  "  fn " ++ (f.owner.map (· ++ ".")).getD "" ++ f.name
    ++ "(" ++ ", ".intercalate f.parameters ++ ")"
    ++ (f.returnType.map fun type => " -> " ++ type).getD "" ++ atLine f.line

/-- The line of a list, unless it is empty. -/
def listLine (title separator : String) (items : List String) : List String :=
  if items.isEmpty then [] else ["  " ++ title ++ ": " ++ separator.intercalate items]

/-- The lines of an outline. -/
def outlineLines (file : AnalyzedFile) : List String :=
  let outline := file.outline
  [file.relativePath ++ " (" ++ languageName file.language ++ ", " ++ toString file.size ++ " bytes)"]
    ++ outline.classes.map classLine
    ++ outline.interfaces.map (fun t => "  interface " ++ t.name ++ atLine t.line)
    ++ outline.types.map (fun t => "  type " ++ t.name ++ atLine t.line)
    ++ outline.functions.map functionLine
    ++ listLine "imports" "; " outline.imports
    ++ listLine "exports" ", " outline.exports

/-- An outline as text. -/
def renderOutline (file : AnalyzedFile) : String :=
  String.join ((outlineLines file).map (· ++ "\n"))

end SourceRetrieval.Render
