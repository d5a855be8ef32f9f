/-
The kinds of search: by words, for a function, for a class, for the uses of a
name, and by meaning.

* `SearchKind.ofText?` reads a kind as a caller writes it;
* `SearchKind.defaultMaxFiles` is how many files an answer holds unless the
  caller says otherwise.
-/
import SourceRetrieval.Text.Blank
import SourceRetrieval.Unicode.Property

namespace SourceRetrieval

/-- A kind of search. -/
inductive SearchKind where
  | keyword
  | function
  | classes
  | usage
  | semantic
  deriving DecidableEq, Inhabited, Repr

namespace SearchKind

/-- Every kind, in order. -/
def all : List SearchKind := [keyword, function, classes, usage, semantic]

/-- The name of a kind. -/
def name : SearchKind → String
  | keyword => "keyword"
  | function => "function"
  | classes => "class"
  | usage => "usage"
  | semantic => "semantic"

/-- The kind of an exact name. -/
def ofName? (name : String) : Option SearchKind := all.find? (·.name == name)

/-- The text that a caller's name for a kind is compared by. -/
def canonical (text : String) : String := Unicode.lowercase (Text.trimmed text)

/-- The kind a caller means, in any case and with blanks around it. -/
def ofText? (text : String) : Option SearchKind := ofName? (canonical text)

/-- What a caller is told whose text names no kind. -/
def unknownMessage (text : String) : String :=
  "unknown search type '" ++ canonical text
    ++ "', expected keyword, function, class, usage or semantic"

/-- How many files an answer holds unless the caller says otherwise. -/
def defaultMaxFiles : SearchKind → Nat
  | keyword => 10
  | function | classes => 8
  | usage => 15
  | semantic => 12

end SearchKind

end SourceRetrieval
