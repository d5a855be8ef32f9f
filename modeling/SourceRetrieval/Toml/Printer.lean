/-
Writing TOML.

* `printDocument` writes sections of pairs;
* `printString` chooses the plainest way of quoting a text.

Design notes: a text is written in double quotes if nothing in it needs an
escape, else in single quotes, else over several lines, and with escapes only
if nothing else can hold it.
-/
import SourceRetrieval.Number.Print
import SourceRetrieval.Text.Blank

namespace SourceRetrieval.Toml

/-- A value that can be written. -/
inductive Item where
  | string (text : String)
  | natural (value : Nat)
  | float (value : Float)
  | boolean (value : Bool)
  | strings (items : List String)
  deriving Inhabited

/-- A named list of pairs. -/
structure Section where
  name : String
  pairs : List (String × Item)

/-- The length of the longest run of a character. -/
def longestRun (c : Char) (cs : List Char) : Nat :=
  ((Text.splitBy (· != c) cs).map List.length).foldl max 0

/-- A character that only an escape can stand for. -/
def needsEscape (c : Char) : Bool :=
  c != '\t' && c != '\n' && (c.toNat < 0x20 || c.toNat == 0x7F)

/-- A hexadecimal number of four digits. -/
def fourDigits (n : Nat) : String :=
  let digits := (Nat.toDigits 16 n).map Char.toUpper
  String.ofList (List.replicate (4 - digits.length) '0' ++ digits)

/-- A character between double quotes. -/
def escaped (lines : Bool) (c : Char) : String :=
  match c with
  | '\x08' => "\\b"
  | '\t' => "\\t"
  | '\x0c' => "\\f"
  | '\r' => "\\r"
  | '\\' => "\\\\"
  | '\n' => if lines then "\n" else "\\n"
  | c => if needsEscape c then "\\u" ++ fourDigits c.toNat else c.toString

/-- A text between double quotes, in which only `room` quotes may follow each other
unescaped; `run` have just gone by. -/
def escapeFrom (lines : Bool) (room run : Nat) : List Char → String
  | [] => ""
  | '"' :: cs =>
    if run < room then "\"" ++ escapeFrom lines room (run + 1) cs
    else "\\\"" ++ escapeFrom lines room 0 cs
  | c :: cs => escaped lines c ++ escapeFrom lines room 0 cs

/-- A text with quotes around it; one of several lines begins on a line of its own. -/
def quotedBy (quote : String) (lines : Bool) (text : String) : String :=
  quote ++ (if lines then "\n" else "") ++ text ++ quote

/-- A text in quotes. -/
def printString (text : String) : String :=
  let cs := text.toList
  let lines := cs.contains '\n'
  let control := cs.any needsEscape
  let doubles := longestRun '"' cs
  let singles := longestRun '\'' cs
  let plain := !control && !cs.contains '\\'
  if plain && doubles = 0 && !lines then quotedBy "\"" false (escapeFrom false 0 0 cs)
  else if !control && singles = 0 && !lines then quotedBy "'" false text
  else if plain && doubles ≤ 2 then quotedBy "\"\"\"" lines (escapeFrom true 2 0 cs)
  else if !control && singles ≤ 2 then quotedBy "'''" lines text
  else if lines then quotedBy "\"\"\"" true (escapeFrom true 2 0 cs)
  else quotedBy "\"" false (escapeFrom false 0 0 cs)

/-- A number, with a point. -/
def printFloat (x : Float) : String :=
  let text := Number.shortest x
  if text == "NaN" then "nan"
  else if x.isInf || text.contains '.' then text
  else text ++ ".0"

/-- A value. -/
def Item.print : Item → String
  | string text => printString text
  | natural value => toString value
  | float value => printFloat value
  | boolean value => if value then "true" else "false"
  | strings [] => "[]"
  | strings [item] => "[" ++ printString item ++ "]"
  | strings items => "[\n" ++ String.join (items.map fun item => "    " ++ printString item ++ ",\n") ++ "]"

/-- A section with its header. -/
def Section.print (part : Section) : String :=
  "[" ++ part.name ++ "]\n"
    ++ String.join (part.pairs.map fun (key, item) => key ++ " = " ++ item.print ++ "\n")

/-- A document, its sections apart by empty lines. -/
def printDocument (sections : List Section) : String :=
  "\n".intercalate (sections.map Section.print)

end SourceRetrieval.Toml
