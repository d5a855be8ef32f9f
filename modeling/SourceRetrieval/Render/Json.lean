/-
Answers as JSON.

* `Json` is a value, `Json.print` its text with two blanks of indentation a level;
* `AnalyzedFile.toJson` and `RetrievalContext.toJson` are the values of files and answers.
-/
import SourceRetrieval.Engine.Context
import SourceRetrieval.Number.Print

namespace SourceRetrieval

/-- A value. -/
inductive Json where
  | null
  | boolean (value : Bool)
  | natural (value : Nat)
  | float (value : Float)
  | string (text : String)
  | array (items : List Json)
  | object (fields : List (String × Json))
  deriving Inhabited

namespace Json

/-- The escape for a control character. -/
def controlEscape (c : Char) : String :=
  let digits := Nat.toDigits 16 c.toNat
  "\\u" ++ String.ofList (List.replicate (4 - digits.length) '0' ++ digits)

/-- A character in a string. -/
def printChar (c : Char) : String :=
  match c with
  | '"' => "\\\""
  | '\\' => "\\\\"
  | '\n' => "\\n"
  | '\r' => "\\r"
  | '\t' => "\\t"
  | '\x08' => "\\b"
  | '\x0c' => "\\f"
  | c => if c.toNat < 0x20 then controlEscape c else c.toString

/-- A string in quotes. -/
def printString (text : String) : String :=
  "\"" ++ text.foldl (fun out c => out ++ printChar c) "" ++ "\""

/-- A line break and the indentation of a level. -/
def newline (level : Nat) : String := "\n" ++ String.ofList (List.replicate (2 * level) ' ')

mutual

/-- The text of a value on a level. -/
def printAt (level : Nat) : Json → String
  | null => "null"
  | boolean value => if value then "true" else "false"
  | natural value => toString value
  | float value => (Number.scientific? value).getD "null"
  | string text => printString text
  | array [] => "[]"
  | array (item :: items) =>
    "[" ++ newline (level + 1) ++ printAt (level + 1) item ++ printItems (level + 1) items
      ++ newline level ++ "]"
  | object [] => "\x7b\x7d"
  | object (field :: fields) =>
    "\x7b" ++ newline (level + 1) ++ printField (level + 1) field
      ++ printFields (level + 1) fields ++ newline level ++ "\x7d"

/-- The text of the items after the first. -/
def printItems (level : Nat) : List Json → String
  | [] => ""
  | item :: items => "," ++ newline level ++ printAt level item ++ printItems level items

/-- The text of a field. -/
def printField (level : Nat) : String × Json → String
  | (name, value) => printString name ++ ": " ++ printAt level value

/-- The text of the fields after the first. -/
def printFields (level : Nat) : List (String × Json) → String
  | [] => ""
  | field :: fields => "," ++ newline level ++ printField level field ++ printFields level fields

end

/-- The text of a value. -/
def print (value : Json) : String := printAt 0 value

/-- A list of texts. -/
def strings (texts : List String) : Json := array (texts.map string)

/-- A field that is left out if there is nothing to say. -/
def optional (name : String) (text : Option String) : List (String × Json) :=
  (text.map fun t => (name, string t)).toList

end Json

open Json

/-- The value of a function. -/
def FunctionDecl.toJson (f : FunctionDecl) : Json :=
  object ([("name", string f.name), ("line", natural f.line), ("parameters", strings f.parameters)]
    ++ optional "returnType" f.returnType ++ [("isExported", boolean f.isExported)]
    ++ optional "owner" f.owner)

/-- The value of a class. -/
def ClassDecl.toJson (c : ClassDecl) : Json :=
  object ([("name", string c.name), ("line", natural c.line), ("methods", strings c.methods),
    ("properties", strings c.properties)] ++ optional "extends" c.extends?
    ++ [("implements", strings c.implements), ("isExported", boolean c.isExported)])

/-- The value of a named type. -/
def TypeDecl.toJson (t : TypeDecl) : Json :=
  object [("name", string t.name), ("line", natural t.line), ("isExported", boolean t.isExported)]

/-- The value of a match. -/
def MatchRange.toJson (range : MatchRange) : Json :=
  object [("start", natural range.start), ("end", natural range.stop), ("line", natural range.line)]

/-- The value of an excerpt. -/
def Excerpt.toJson (excerpt : Excerpt) : Json :=
  object [("startLine", natural excerpt.firstLine), ("endLine", natural excerpt.lastLine),
    ("text", string excerpt.text)]

/-- The fields for an outline. -/
def Outline.jsonFields (outline : Outline) : List (String × Json) :=
  [("functions", array (outline.functions.map (·.toJson))),
    ("classes", array (outline.classes.map (·.toJson))),
    ("interfaces", array (outline.interfaces.map (·.toJson))),
    ("types", array (outline.types.map (·.toJson))),
    ("imports", strings outline.imports), ("exports", strings outline.exports)]

/-- The value of a file. -/
def AnalyzedFile.toJson (file : AnalyzedFile) : Json :=
  object ([("path", string file.path.text), ("relativePath", string file.relativePath),
    ("content", string file.content), ("sizeBytes", natural file.size),
    ("language", (file.language.map fun language => string language.key).getD null),
    ("relevanceScore", float file.relevance)]
    ++ file.outline.jsonFields
    ++ [("matchRanges", array (file.ranges.map (·.toJson))),
      ("excerpts", array (file.excerpts.map (·.toJson)))])

/-- The value of how an answer came about. -/
def SearchMetadata.toJson (metadata : SearchMetadata) : Json :=
  object [("query", string metadata.query), ("searchType", string metadata.kind.name),
    ("timeMs", natural metadata.timeMs),
    ("totalFilesScanned", natural metadata.totalFilesScanned),
    ("includedLanguages", strings metadata.includedLanguages),
    ("excludedPatterns", strings metadata.excludedPatterns),
    ("timedOut", boolean metadata.timedOut), ("adjustments", strings metadata.adjustments),
    ("cacheHits", natural metadata.cacheHits)]

/-- The value of an answer. -/
def RetrievalContext.toJson (context : RetrievalContext) : Json :=
  object [("files", array (context.files.map (·.toJson))),
    ("relevanceScore", float context.relevance), ("totalMatches", natural context.totalMatches),
    ("searchMetadata", context.metadata.toJson)]

end SourceRetrieval
