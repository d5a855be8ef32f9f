/-
Properties of the characters of a text, and the lower-case form of a text.

* `isAlphabetic`, `isAlphanumeric`, `isUppercase` and `isLowercase` are the
  predicates the rest of the library asks for;
* `lowercase` lowers a whole text.

Design notes: most characters of source code are ASCII, so each predicate answers those
from the code point alone and searches a table for the others.  Texts follow edition 17 of
the Unicode standard, so each table is that of edition 16 with what was added since.  A
capital sigma is the one letter whose lower-case form depends on its neighbours, and a
dotted capital I the one that lowers to two characters.
-/
import SourceRetrieval.Unicode.Trait
import SourceRetrieval.Unicode.Case

namespace SourceRetrieval.Unicode

/-- The letters that edition 17 added. -/
def newLetters : CodeSet :=
  .ofText
    "88F C5C CDC A7CE-A7CF A7D2 A7D4 A7F1 10940-10959 10EC5-10EC7 10EFA-10EFB 11B60-11B67
     11DB0-11DDB 16EA0-16EB8 16EBB-16ED3 16FF2-16FF6 187F8-187FF 18D09-18D1E 18D80-18DF2
     1E6C0-1E6DE 1E6E0-1E6F5 1E6FE-1E6FF 2B73A-2B73F 2CEA2-2CEAD 323B0-33479"

/-- The numerals that edition 17 added. -/
def newNumbers : CodeSet := .ofText "11DE0-11DE9 16FF4-16FF6"

/-- The capitals that edition 17 added. -/
def newUppercase : CodeSet := .ofText "A7CE A7D2 A7D4 16EA0-16EB8"

/-- The small letters that edition 17 added. -/
def newLowercase : CodeSet := .ofText "A7CF A7F1 16EBB-16ED3"

/-- The marks and modifiers that edition 17 added. -/
def newIgnorable : CodeSet :=
  .ofText
    "1ACF-1ADD 1AE0-1AEB A7F1 10EC5 10EFA-10EFB 11B60 11B62-11B64 11B66 11DD9 16FF2-16FF3 1E6E3
     1E6E6 1E6EE-1E6EF 1E6F5 1E6FF"

/-- The letter that edition 17 found to have no case. -/
def caseless : CodeSet := .ofText "295"

/-- The property Alphabetic. -/
def letters : CodeSet := .union Trait.alphabetic newLetters

/-- The letters and the numerals. -/
def lettersAndNumbers : CodeSet := .unions [letters, Category.number, newNumbers]

/-- The property Uppercase. -/
def uppercaseLetters : CodeSet := .union Trait.uppercase newUppercase

/-- The property Lowercase. -/
def lowercaseLetters : CodeSet := .minus (.union Trait.lowercase newLowercase) caseless

/-- The property Cased. -/
def casedLetters : CodeSet :=
  .unions [uppercaseLetters, lowercaseLetters, Category.titlecaseLetter]

/-- The property Case_Ignorable. -/
def ignorable : CodeSet := .union Trait.caseIgnorable newIgnorable

/-- A letter, in the sense of the property Alphabetic. -/
def isAlphabetic (c : Char) : Bool := if c.toNat < 128 then c.isAlpha else letters.has c

/-- A letter or a numeral. -/
def isAlphanumeric (c : Char) : Bool :=
  if c.toNat < 128 then c.isAlphanum else lettersAndNumbers.has c

/-- An upper-case character. -/
def isUppercase (c : Char) : Bool := if c.toNat < 128 then c.isUpper else uppercaseLetters.has c

/-- A lower-case character. -/
def isLowercase (c : Char) : Bool := if c.toNat < 128 then c.isLower else lowercaseLetters.has c

/-- A character that has a case at all. -/
def isCased (c : Char) : Bool := casedLetters.has c

/-- A character that is skipped when the context of a sigma is looked at. -/
def isCaseIgnorable (c : Char) : Bool := ignorable.has c

/-- The lower-case form of one character out of context. -/
def lowerChar (c : Char) : List Char :=
  if c.toNat < 128 then [c.toLower]
  else if c == 'İ' then ['i', '\u0307']
  else [Char.ofNat (shiftBy lowerRuns c.toNat)]

/-- Whether, case-ignorable characters aside, a cased character comes first. -/
def startsCased (cs : List Char) : Bool :=
  match cs.dropWhile isCaseIgnorable with
  | c :: _ => isCased c
  | [] => false

/-- Lower the rest of a text; `before` holds what precedes it, nearest first. -/
def lowerAfter (before : List Char) : List Char → List Char
  | [] => []
  | c :: rest =>
    let image :=
      if c == 'Σ' then
        if startsCased before && !startsCased rest then ['ς'] else ['σ']
      else lowerChar c
    image ++ lowerAfter (c :: before) rest

/-- The lower-case form of a text. -/
def lowercase (text : String) : String :=
  String.ofList (lowerAfter [] text.toList)

end SourceRetrieval.Unicode
