/-
Words of like meaning.

* `splitIdentifier` cuts an identifier into its lower-case words;
* `stem` strips a common ending;
* `concepts` are groups of words that belong together;
* `expand` turns words into the terms that a search by meaning looks for.

Design notes: the terms of a list of words are the candidates of each word in
turn with repetitions left out, so expansion distributes over joining lists.
-/
import SourceRetrieval.Query.Words
import SourceRetrieval.Text.Find

namespace SourceRetrieval.Query

open Text

/-- Groups of words that belong together. -/
def concepts : List (List String) := [
  ["auth", "authenticate", "authentication", "login", "logout", "signin", "credential",
    "password", "token", "session"],
  ["permission", "authorize", "authorization", "role", "access", "policy"],
  ["user", "account", "profile", "member"],
  ["config", "configuration", "settings", "options", "preferences", "env"],
  ["database", "db", "repository", "query", "sql", "storage", "persist"],
  ["error", "exception", "failure", "fault", "panic"],
  ["http", "request", "response", "api", "endpoint", "route", "handler", "fetch"],
  ["test", "spec", "mock", "fixture", "assert"],
  ["cache", "memo", "memoize", "lru"],
  ["log", "logger", "logging", "trace"],
  ["parse", "parser", "tokenize", "lexer", "deserialize"],
  ["file", "path", "directory", "folder"],
  ["notification", "notify", "email", "message", "alert"],
  ["payment", "billing", "invoice", "charge", "checkout"],
  ["search", "find", "lookup", "index"],
  ["validate", "validation", "validator", "sanitize"]]

/-- The concepts as characters. -/
def conceptChars : List (List (List Char)) := concepts.map (·.map String.toList)

/-- Endings that a stem goes without, tried in this order. -/
def suffixes : List (List Char) :=
  ["ations", "ation", "ing", "ers", "er", "ed", "es", "s"].map String.toList

/-- The pieces of a word at its changes of case.  `current` holds the open piece, last
character first. -/
def splitCase (current : List Char) : List Char → List (List Char)
  | [] => if current.isEmpty then [] else [current.reverse]
  | c :: cs =>
    match current with
    | before :: _ =>
      let turns := Unicode.isUppercase c
        && (Unicode.isLowercase before || before.isDigit || cs.head?.any Unicode.isLowercase)
      if turns then current.reverse :: splitCase [c] cs else splitCase (c :: current) cs
    | [] => splitCase [c] cs

/-- The lower-case words of an identifier. -/
def splitIdentifierChars (cs : List Char) : List (List Char) :=
  let pieces := splitBy (fun c => c == '_' || c == '-' || c == '$') cs
  (pieces.flatMap (splitCase [])).map lower

/-- The lower-case words of an identifier. -/
def splitIdentifier (identifier : String) : List String :=
  (splitIdentifierChars identifier.toList).map String.ofList

/-- A word without a common ending, if at least four bytes are left of it. -/
def stemChars (word : List Char) : List Char :=
  let bases := suffixes.filterMap fun suffix => dropTail? suffix word
  (bases.find? fun base => 4 ≤ byteLength base).getD word

/-- A word without a common ending. -/
def stem (word : String) : String := String.ofList (stemChars word.toList)

/-- Whether a token counts as a member of a concept: equal, or one begins with the other
and that other has at least four bytes. -/
def isLike (token member : List Char) : Bool :=
  token == member
    || (4 ≤ byteLength member && member.isPrefixOf token)
    || (4 ≤ byteLength token && token.isPrefixOf member)

/-- The members of every concept that a token belongs to. -/
def relatedTerms (token : List Char) : List (List Char) :=
  (conceptChars.filter fun concept => concept.any (isLike token)).flatten

/-- What one word contributes: itself and its parts, each with its stem, and then the
terms related to these. -/
def candidates (word : List Char) : List (List Char) :=
  let pieces := lower word :: splitIdentifierChars word
  (pieces.flatMap fun piece => [piece, stemChars piece])
    ++ pieces.flatMap relatedTerms

/-- The terms that a search by meaning looks for. -/
def expandChars (words : List (List Char)) : List (List Char) :=
  distinct ((words.flatMap candidates).filter isTerm)

/-- The terms that a search by meaning looks for. -/
def expand (words : List String) : List String :=
  (expandChars (words.map String.toList)).map String.ofList

end SourceRetrieval.Query
