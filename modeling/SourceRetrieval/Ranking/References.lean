/-
References to a name: where it stands as a whole word, and what the text around
it on its line makes of it.

* `findReferences` lists the references outside the lines that declare the name;
* `referenceKind` judges one of them.
-/
import SourceRetrieval.Text.Blank
import SourceRetrieval.Text.Find
import SourceRetrieval.Text.Lines

namespace SourceRetrieval.Ranking

open Text

/-- What a reference does with the name. -/
inductive ReferenceKind where
  | imported
  | call
  | memberAccess
  | instantiation
  | inheritance
  | typeReference
  | write
  | read
  deriving DecidableEq, Inhabited, Repr

/-- The name of a kind of reference in data formats. -/
def ReferenceKind.name : ReferenceKind → String
  | imported => "import"
  | call => "call"
  | memberAccess => "property_access"
  | instantiation => "instantiation"
  | inheritance => "inheritance"
  | typeReference => "type_reference"
  | write => "write"
  | read => "read"

/-- An occurrence of a name. -/
structure Reference where
  line : Nat
  /-- Offsets into the whole content. -/
  start : Nat
  stop : Nat
  kind : ReferenceKind
  deriving DecidableEq, Inhabited, Repr

/-- Whether a text begins with a word. -/
def begins (word : String) (cs : List Char) : Bool := word.toList.isPrefixOf cs

/-- Whether a text ends with a word. -/
def ends (word : String) (cs : List Char) : Bool := word.toList.isSuffixOf cs

/-- Whether a word occurs in a text. -/
def holds (word : String) (cs : List Char) : Bool := occursIn word.toList cs

/-- What import statements begin with. -/
def importLeads : List String :=
  ["import ", "from ", "use ", "using ", "pub use ", "export * from", "#include"]

/-- A line that imports something. -/
def isImportLine (line : List Char) : Bool :=
  let line := trimStart line
  importLeads.any (begins · line) || holds "require(" line || holds "import(" line
    || (begins "export " line && holds " from " line)

/-- What a reference does with a name, from the text before and after it on `line`. -/
def referenceKind (line before after : List Char) : ReferenceKind :=
  let after := trimStart after
  if isImportLine line then .imported
  else if ends "new" (trimEnd before) then .instantiation
  else if holds "extends" before || holds "implements" before then .inheritance
  else if begins "(" after then .call
  else if ends "." before || (begins "." after && !begins ".." after) then .memberAccess
  else if begins "=" after && !begins "==" after && !begins "=>" after then .write
  else if holds ":" before || holds "->" before || holds "<" before then .typeReference
  else .read

/-- The references on one line, which is the `number`-th and begins at offset `start`. -/
def lineReferences (name : List Char) (number start : Nat) (line : List Char) : List Reference :=
  (wordOccurrences name line).map fun offset =>
    let before := takeBytes offset line
    { line := number
      start := start + offset
      stop := start + offset + byteLength name
      kind := referenceKind line before (line.drop (before.length + name.length)) }

/-- The references on the lines of a text, the first of which is the `number`-th and begins
at offset `start`. -/
def referencesFrom (name : List Char) (declared : List Nat) (number start : Nat) :
    List (List Char) → List Reference
  | [] => []
  | line :: rest =>
    let here := if declared.contains number then [] else lineReferences name number start line
    here ++ referencesFrom name declared (number + 1) (start + byteLength line) rest

/-- The references to `name` in a text, outside the lines that declare it. -/
def findReferences (content name : List Char) (declared : List Nat) : List Reference :=
  if name.isEmpty then [] else referencesFrom name declared 1 0 (lineChunks content)

end SourceRetrieval.Ranking
