/-
The words of a query and what they look like.

* `words` are the words as written, without the punctuation around them;
* `tokens` are the lower-case words that a search counts;
* `isCodeIdentifier` tells an identifier from a word of prose;
* `classify` guesses the kind of search that a query calls for.

Design notes: only ASCII letters change case, so that a token has as many
bytes as the word it was made from.
-/
import SourceRetrieval.Query.Kind
import SourceRetrieval.Listing

namespace SourceRetrieval.Query

open Text

/-- A character of a word. -/
def isWordPart (c : Char) : Bool := Unicode.isAlphanumeric c || c == '_' || c == '$'

/-- The ASCII letters in lower case. -/
def lower (cs : List Char) : List Char := cs.map Char.toLower

/-- Drop the characters that satisfy `p` from both ends. -/
def trimBy (p : Char → Bool) (cs : List Char) : List Char := dropEndWhile p (cs.dropWhile p)

/-- The words of a query, without the punctuation around them. -/
def wordsOf (cs : List Char) : List (List Char) :=
  ((Text.words cs).map (trimBy fun c => !isWordPart c)).filter (!·.isEmpty)

/-- The words of a query, without the punctuation around them. -/
def words (query : String) : List String := (wordsOf query.toList).map String.ofList

/-- Words that say nothing on their own. -/
def stopwords : List String :=
  ["a", "an", "and", "are", "as", "at", "be", "by", "code", "do", "does", "for", "from", "how",
    "in", "is", "it", "me", "of", "on", "or", "show", "that", "the", "this", "to", "what", "where",
    "which", "who", "why", "with", "work", "works"]

/-- The stopwords as characters. -/
def stopwordChars : List (List Char) := stopwords.map String.toList

/-- A word that says nothing on its own. -/
def isStopword (word : List Char) : Bool := stopwordChars.contains word

/-- A word worth looking for: more than one character and no stopword. -/
def isTerm (word : List Char) : Bool := 1 < word.length && !isStopword word

/-- The lower-case words of a query that are worth looking for. -/
def tokensOf (cs : List Char) : List (List Char) :=
  distinct (((splitBy (!isWordPart ·) cs).map lower).filter isTerm)

/-- The lower-case words of a query that are worth looking for. -/
def tokens (query : String) : List String := (tokensOf query.toList).map String.ofList

/-- A character of an identifier: an ASCII letter or digit, `_` or `$`. -/
def isIdentifierPart (c : Char) : Bool := c.isAlphanum || c == '_' || c == '$'

/-- A word shaped like an identifier of several words: in snake case, camel case or
Pascal case. -/
def isCodeIdentifier (word : List Char) : Bool :=
  match word with
  | [] => false
  | first :: rest =>
    let hasLower := word.any Char.isLower
    let innerUpper := rest.any Char.isUpper
    let snake := (trimBy (· == '_') word).contains '_'
    let camel := first.isLower && innerUpper
    let pascal := first.isUpper && hasLower && innerUpper
    (first.isAlpha || first == '_' || first == '$') && word.all isIdentifierPart
      && (snake || camel || pascal)

/-- Words that put a query in the context of a class. -/
def classKeywords : List String :=
  ["class", "interface", "struct", "trait", "type", "enum", "record"]

/-- A word that puts a query in the context of a class. -/
def isClassKeyword (word : List Char) : Bool :=
  classKeywords.contains (String.ofList (lower word))

/-- A capitalized word. -/
def isCapitalized (word : List Char) : Bool :=
  word.head?.any Char.isUpper && word.any Char.isLower
    && word.all fun c => c.isAlphanum || c == '_'

/-- A word that can name a class beside a class keyword. -/
def namesClass (word : List Char) : Bool :=
  !isClassKeyword word && (isCapitalized word || isCodeIdentifier word)

/-- Whether some class keyword stands next to the name of a class. -/
def namesClassInContext : List (List Char) → Bool
  | first :: second :: rest =>
    (isClassKeyword first && namesClass second) || (namesClass first && isClassKeyword second)
      || namesClassInContext (second :: rest)
  | _ => false

/-- The kind of search that a query calls for.  In this order: a short query with an
identifier or a call looks for a function, a named class for a class, a long query of
plain words for a meaning, and anything else for its words. -/
def classifyChars (query : List Char) : SearchKind :=
  let raw := Text.words query
  let named := wordsOf query
  let hasIdentifier := named.any isCodeIdentifier
  let inClassContext := named.any isClassKeyword
  let called := raw.any fun word => ['(', ')'].isSuffixOf word
  let meansClass :=
    if inClassContext then namesClassInContext named
    else raw.length == 1 && named.head?.any isCapitalized
  if raw.isEmpty then .keyword
  else if raw.length ≤ 3 && (hasIdentifier || called) && !inClassContext then .function
  else if meansClass then .classes
  else if 3 < raw.length && !hasIdentifier then .semantic
  else .keyword

/-- The kind of search that a query calls for. -/
def classify (query : String) : SearchKind := classifyChars query.toList

end SourceRetrieval.Query
