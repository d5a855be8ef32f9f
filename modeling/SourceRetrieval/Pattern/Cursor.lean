/-
The place where the text of a pattern is being read.

* `Flags` are the flags in force there, and `Cursor` is all that is carried along;
* `Reader` is a reader of one piece of a pattern, which may fail;
* the readers here take single characters, blanks and texts in braces.

Design notes: a verbose pattern may hold blanks and comments, but not
everywhere.  The readers therefore say one by one where blanks are dropped.
-/
import SourceRetrieval.Text.Blank
import SourceRetrieval.Unicode.Case
import SourceRetrieval.Pattern.Basic

namespace SourceRetrieval.Pattern

open Unicode

/-- The flags in force at a place of a pattern. -/
structure Flags where
  ignoreCase : Bool := false
  multiLine : Bool := false
  dotAll : Bool := false
  swapGreed : Bool := false
  verbose : Bool := false
  pairedEnds : Bool := false
  unicode : Bool := true

/-- A set as it is when case does not count, if it does not. -/
def Flags.close (flags : Flags) (set : CodeSet) : CodeSet :=
  if !flags.ignoreCase then set
  else if flags.unicode then set.closeFold
  else set.closeAsciiFold

/-- Whether the flags let a pattern hold a set. -/
def Flags.allows (flags : Flags) (set : CodeSet) : Bool := flags.unicode || set.isAscii

/-- A set with case folded if case does not count, and then its complement if `negated`. -/
def Flags.finish (flags : Flags) (negated : Bool) (set : CodeSet) : CodeSet :=
  let closed := flags.close set
  if negated then closed.complement else closed

/-- What the reader carries along. -/
structure Cursor where
  rest : List Char
  flags : Flags
  /-- How many capture groups have begun, the whole match being the first. -/
  groups : Nat := 1
  /-- The names of capture groups with their numbers, in order. -/
  names : List (String × Nat) := []

/-- A reader of one piece of a pattern. -/
abbrev Reader := StateT Cursor Option

namespace Reader

/-- The next character, left in place. -/
def peek : Reader (Option Char) := return (← get).rest.head?

/-- Drop the next character. -/
def advance : Reader Unit := modify fun cursor => { cursor with rest := cursor.rest.tail }

/-- Drop blanks, in a verbose pattern or not. -/
def dropBlanks : Reader Unit :=
  modify fun cursor => { cursor with rest := cursor.rest.dropWhile Text.isBlank }

/-- Drop blanks, and comments up to the end of their line; `fuel` bounds the number of
comments. -/
def withoutBlanks : Nat → List Char → List Char
  | 0, cs => cs
  | fuel + 1, cs =>
    match cs.dropWhile Text.isBlank with
    | '#' :: rest => withoutBlanks fuel (rest.dropWhile (· != '\n'))
    | rest => rest

/-- Drop the blanks and comments that a verbose pattern may hold. -/
def skipBlanks : Reader Unit :=
  modify fun cursor =>
    if cursor.flags.verbose then
      { cursor with rest := withoutBlanks cursor.rest.length cursor.rest }
    else cursor

/-- Drop the next character and the blanks after it. -/
def step : Reader Unit := do
  advance
  skipBlanks

/-- Take the next character, which must be there. -/
def next : Reader Char := do
  let some c ← peek | failure
  advance
  return c

/-- Drop `expected`, which must come next. -/
def expect (expected : Char) : Reader Unit := do
  if (← next) == expected then return () else failure

/-- Whether the text to come begins with `lead`. -/
def looksAt (lead : String) : Reader Bool :=
  return lead.toList.isPrefixOf (← get).rest

/-- Drop `lead` if the text to come begins with it. -/
def dropIf (lead : String) : Reader Bool := do
  let found ← looksAt lead
  if found then
    modify fun cursor => { cursor with rest := cursor.rest.drop lead.length }
  return found

/-- Take the characters up to `stop`, which is dropped and must be there. -/
def takeUntil (stop : Char) : Reader (List Char) := do
  let cursor ← get
  let taken := cursor.rest.takeWhile (· != stop)
  if taken.length < cursor.rest.length then
    set { cursor with rest := cursor.rest.drop (taken.length + 1) }
    return taken
  else failure

/-- Take the characters for which `test` holds, dropping the blanks after each of them;
`fuel` bounds their number. -/
def takeSpaced (test : Char → Bool) : Nat → Reader (List Char)
  | 0 => return []
  | fuel + 1 => do
    match ← peek with
    | none => return []
    | some c =>
      if test c then
        step
        return c :: (← takeSpaced test fuel)
      else return []

/-- Take the characters from an opening brace, which comes next, to the closing one, without
the braces and the blanks. -/
def takeBraced : Reader (List Char) := do
  step
  let inside ← takeSpaced (· != '\x7d') (← get).rest.length
  expect '\x7d'
  return inside

end Reader

end SourceRetrieval.Pattern
