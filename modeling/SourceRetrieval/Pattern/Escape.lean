/-
Escapes in the text of a pattern.

* `Escape` is what an escape stands for: a character, a set or a condition;
* `readEscape` reads an escape whose backslash has been dropped.

Design notes: without the flag for Unicode the letters of classes and of word
boundaries mean ASCII characters alone, and whatever would match part of a character
outside ASCII is an error.
-/
import SourceRetrieval.Pattern.Cursor

namespace SourceRetrieval.Pattern

open Unicode Reader

/-- What an escape stands for. -/
inductive Escape where
  | literal (c : Char)
  | set (chars : CodeSet)
  | look (condition : Look)

/-- The value of a hexadecimal digit. -/
def hexValue? (c : Char) : Option Nat :=
  if c.isDigit then some (c.toNat - 48)
  else if 'a' ≤ c && c ≤ 'f' then some (c.toNat - 87)
  else if 'A' ≤ c && c ≤ 'F' then some (c.toNat - 55)
  else none

/-- The number that hexadecimal digits write. -/
def hexNumber? (digits : List Char) : Option Nat :=
  if digits.isEmpty then none
  else digits.foldlM (fun n c => return n * 16 + (← hexValue? c)) 0

/-- The character of a number, if there is one. -/
def charOfNat? (n : Nat) : Option Char :=
  if n.isValidChar then some (Char.ofNat n) else none

/-- Read a hexadecimal escape: `width` digits, or any number of them in braces.  Two digits
without braces are a byte, which has to be an ASCII character unless characters are meant. -/
def hexEscape (width : Nat) : Reader Escape := do
  skipBlanks
  let braced := (← peek) == some '\x7b'
  let digits ← if braced then takeBraced else takeSpaced (fun c => (hexValue? c).isSome) width
  if !braced && digits.length < width then failure
  let some c := (hexNumber? digits).bind charOfNat? | failure
  if width == 2 && !braced && !(← get).flags.unicode && c.toNat ≥ 128 then failure
  return .literal c

/-- The parts of a text before and after the first place where `mark` stands. -/
def splitAt? (mark : List Char) : List Char → Option (List Char × List Char)
  | [] => none
  | c :: cs =>
    if mark.isPrefixOf (c :: cs) then some ([], (c :: cs).drop mark.length)
    else (splitAt? mark cs).map fun (before, after) => (c :: before, after)

/-- The set that the text in the braces of a property escape names, and whether the text
asks for its complement. -/
def propertySet? (text : List Char) : Option (CodeSet × Bool) :=
  match splitAt? ['!', '='] text with
  | some (name, value) => (CodeSet.valued? name value).map (·, true)
  | none =>
    match splitAt? [':'] text <|> splitAt? ['='] text with
    | some (name, value) => (CodeSet.valued? name value).map (·, false)
    | none => (CodeSet.named? text).map (·, false)

/-- Read the name of a property escape. -/
def propertyEscape (negated : Bool) : Reader Escape := do
  skipBlanks
  let text ←
    if (← peek) == some '\x7b' then takeBraced
    else do
      let c ← next
      if c == '\\' then failure
      skipBlanks
      pure [c]
  let flags := (← get).flags
  if !flags.unicode then failure
  let some (chars, unequal) := propertySet? text | failure
  return .set (flags.finish (negated != unequal) chars)

/-- The digits of ASCII. -/
def asciiDigits : CodeSet := .between '0' '9'

/-- The blanks of ASCII. -/
def asciiBlanks : CodeSet := .union (.between '\t' '\r') (.single ' ')

/-- The letters of ASCII. -/
def asciiLetters : CodeSet := .union (.between 'A' 'Z') (.between 'a' 'z')

/-- The word characters of ASCII. -/
def asciiWord : CodeSet := .unions [asciiDigits, asciiLetters, .single '_']

/-- Read the rest of a class escape such as `\d`; a capital means the complement. -/
def classEscape (letter : Char) : Reader Escape := do
  let flags := (← get).flags
  let plain := match letter.toLower with
    | 'd' => if flags.unicode then Category.decimalNumber else asciiDigits
    | 's' => if flags.unicode then Trait.whiteSpace else asciiBlanks
    | _ => if flags.unicode then Trait.word else asciiWord
  let chars := if letter.isUpper then plain.complement else plain
  if flags.allows chars then return .set chars else failure

/-- Whether a character may stand in the name of a word edge. -/
def inEdgeName (c : Char) : Bool := c.isAlpha || c == '-'

/-- The word edge of a name. -/
def WordEdge.named? : String → Option WordEdge
  | "start" => some .start
  | "end" => some .stop
  | "start-half" => some .startHalf
  | "end-half" => some .stopHalf
  | _ => none

/-- Read the name of a word edge in braces, if there is one; braces that begin otherwise
belong to a repetition. -/
def edgeName : Reader WordEdge := do
  let cursor ← get
  if (← peek) != some '\x7b' then return .boundary
  step
  match ← peek with
  | none => failure
  | some c =>
    if inEdgeName c then
      let name ← takeSpaced inEdgeName cursor.rest.length
      expect '\x7d'
      let some edge := WordEdge.named? (String.ofList name) | failure
      return edge
    else
      set cursor
      return .boundary

/-- Read an escape, its backslash being dropped already. -/
def readEscape : Reader Escape := do
  let c ← next
  let ascii := !(← get).flags.unicode
  match c with
  | 'x' => hexEscape 2
  | 'u' => hexEscape 4
  | 'U' => hexEscape 8
  | 'p' => propertyEscape false
  | 'P' => propertyEscape true
  | 'd' | 's' | 'w' | 'D' | 'S' | 'W' => classEscape c
  | 'a' => return .literal '\x07'
  | 'f' => return .literal '\x0c'
  | 't' => return .literal '\t'
  | 'n' => return .literal '\n'
  | 'r' => return .literal '\r'
  | 'v' => return .literal '\x0b'
  | 'A' => return .look .textStart
  | 'z' => return .look .textEnd
  | 'b' => return .look (.word (← edgeName) ascii)
  | 'B' => return .look (.word .inside ascii)
  | '<' => return .look (.word .start ascii)
  | '>' => return .look (.word .stop ascii)
  | _ => if c.toNat < 128 && !c.isAlphanum then return .literal c else failure

end SourceRetrieval.Pattern
