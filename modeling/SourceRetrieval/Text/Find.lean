/-
Occurrences of one text in another.

* `occursIn` and `firstOccurrence?` look for a first occurrence;
* `occurrences` lists the offsets of the occurrences met from left to right,
  none overlapping the one before it;
* `wordOccurrences` keeps those that are not part of a longer identifier.

Design notes: the scans are recursions on the text that count the characters
still covered by the last occurrence, which makes them structural.
-/
import SourceRetrieval.Text.Offset

namespace SourceRetrieval.Text

/-- Whether `needle` occurs in a text. -/
def occursIn (needle : List Char) : List Char → Bool
  | [] => needle.isEmpty
  | c :: cs => needle.isPrefixOf (c :: cs) || occursIn needle cs

/-- The offset of the first occurrence of `needle` in a text that begins at offset `start`. -/
def firstOccurrence? (needle : List Char) (start : Nat) : List Char → Option Nat
  | [] => if needle.isEmpty then some start else none
  | c :: cs =>
    if needle.isPrefixOf (c :: cs) then some start
    else firstOccurrence? needle (start + c.utf8Size) cs

/-- The text after the first occurrence of `needle`. -/
def afterFirst? (needle : List Char) : List Char → Option (List Char)
  | [] => if needle.isEmpty then some [] else none
  | c :: cs =>
    if needle.isPrefixOf (c :: cs) then some ((c :: cs).drop needle.length)
    else afterFirst? needle cs

/-- `text` without `lead` in front of it, if it begins with `lead`. -/
def dropLead? (lead text : List Char) : Option (List Char) :=
  if lead.isPrefixOf text then some (text.drop lead.length) else none

/-- `text` without `tail` at its end, if it ends with `tail`. -/
def dropTail? (tail text : List Char) : Option (List Char) :=
  if tail.isSuffixOf text then some (text.take (text.length - tail.length)) else none

/-- The occurrences of a non-empty `needle`, the next `skip` characters being covered
by the last one. -/
def occurrencesFrom (needle : List Char) (skip start : Nat) : List Char → List Nat
  | [] => []
  | c :: cs =>
    match skip with
    | rest + 1 => occurrencesFrom needle rest (start + c.utf8Size) cs
    | 0 =>
      if needle.isPrefixOf (c :: cs) then
        start :: occurrencesFrom needle (needle.length - 1) (start + c.utf8Size) cs
      else occurrencesFrom needle 0 (start + c.utf8Size) cs

/-- The offsets of the non-overlapping occurrences of `needle`; none if it is empty. -/
def occurrences (needle cs : List Char) : List Nat :=
  if needle.isEmpty then [] else occurrencesFrom needle 0 0 cs

/-- A character of an ASCII identifier. -/
def isIdentChar (c : Char) : Bool := c.isAlphanum || c == '_' || c == '$'

/-- Whether a neighbour, if there is one, is no character of an identifier. -/
def separates : Option Char → Bool
  | some c => !isIdentChar c
  | none => true

/-- As `occurrencesFrom`, for whole words; `before` is the character before the text. -/
def wordOccurrencesFrom (needle : List Char) (skip start : Nat) (before : Option Char) :
    List Char → List Nat
  | [] => []
  | c :: cs =>
    match skip with
    | rest + 1 => wordOccurrencesFrom needle rest (start + c.utf8Size) (some c) cs
    | 0 =>
      if needle.isPrefixOf (c :: cs) then
        let later := wordOccurrencesFrom needle (needle.length - 1) (start + c.utf8Size) (some c) cs
        if separates before && separates (((c :: cs).drop needle.length).head?) then start :: later
        else later
      else wordOccurrencesFrom needle 0 (start + c.utf8Size) (some c) cs

/-- The offsets where `needle` occurs as a whole word. -/
def wordOccurrences (needle cs : List Char) : List Nat :=
  if needle.isEmpty then [] else wordOccurrencesFrom needle 0 0 none cs

end SourceRetrieval.Text
