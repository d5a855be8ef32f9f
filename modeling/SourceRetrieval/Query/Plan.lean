/-
The plan of a search: everything that scoring needs to know about a query.

* `QueryPlan.make` plans a query, guessing its kind unless one is given;
* `targetSymbol?` is the identifier that a query is about.
-/
import SourceRetrieval.Query.Expansion

namespace SourceRetrieval

/-- A query made ready for scoring. -/
structure QueryPlan where
  /-- The query without the blanks around it. -/
  query : String
  kind : SearchKind
  /-- The lower-case words to look for. -/
  tokens : List String
  /-- The identifier that the query is about, as written. -/
  symbol : Option String
  /-- The lower-case terms of a search by meaning. -/
  expansions : List String
  deriving DecidableEq, Inhabited, Repr

namespace QueryPlan

open Query

/-- A plain word that can stand for a symbol: no class keyword and worth looking for. -/
def isPlainTarget (word : List Char) : Bool :=
  !isClassKeyword word && (tokensOf (lower word)).contains (lower word)

/-- The identifier that a query is about: the first word shaped like one, or else the
first plain word. -/
def targetSymbol? (query : List Char) : Option (List Char) :=
  let words := wordsOf query
  (words.find? isCodeIdentifier).or (words.find? isPlainTarget)

/-- The terms of a search by meaning, from the words that are worth looking for. -/
def meaningTerms (query : List Char) : List (List Char) :=
  let tokens := tokensOf query
  expandChars ((wordsOf query).filter fun word => tokens.contains (lower word))

/-- Plan a query; without a kind the query is classified. -/
def make (query : String) (kind : Option SearchKind) : QueryPlan :=
  let cs := Text.trim query.toList
  let kind := kind.getD (classifyChars cs)
  let tokens := (tokensOf cs).map String.ofList
  { query := String.ofList cs
    kind := kind
    tokens := tokens
    symbol := (targetSymbol? cs).map String.ofList
    expansions :=
      if kind = .semantic then (meaningTerms cs).map String.ofList else tokens }

/-- A plan with nothing to look for. -/
def isEmpty (plan : QueryPlan) : Bool := plan.tokens.isEmpty && plan.symbol.isNone

end QueryPlan

end SourceRetrieval
