/-
Patterns as searches.

* `Group` is a stretch of a text, and `Match` a match with its named groups;
* `Pattern` is a search for matches.

Design notes: of a pattern no more is known here than what it reports, so what is made of its
matches does not depend on how they are found.
-/

namespace SourceRetrieval

namespace Pattern

/-- A stretch of a text: its offsets and what stands there. -/
structure Group where
  start : Nat
  stop : Nat
  text : List Char

/-- A match: the whole of it, and the named groups that took part in it. -/
structure Match where
  whole : Group
  named : List (String × Group)

/-- The group of a name, if it took part in the match. -/
def Match.group? (m : Match) (name : String) : Option Group := m.named.lookup name

end Pattern

/-- A pattern to search texts for. -/
structure Pattern where
  /-- The matches in a text, from left to right. -/
  findAll : List Char → List Pattern.Match
  /-- The match at the very beginning of a text. -/
  matchAtStart? : List Char → Option Pattern.Match
  /-- Whether a group has this name. -/
  hasGroup : String → Bool

end SourceRetrieval
