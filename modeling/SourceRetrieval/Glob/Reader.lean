/-
Reading glob patterns.

* `Glob.ofText?` reads a pattern, or nothing if it is malformed.

Design notes: the reader keeps the parts of the open branch, last one first,
and, for each open brace, the branches finished there and the parts around it.
Two stars stand for directories only between slashes, so a reader also
remembers the character before.
-/
import SourceRetrieval.Glob.Basic

namespace SourceRetrieval.Glob

/-- How a pattern is read. -/
structure Style where
  /-- Whether wildcards stand for no slash. -/
  keepSlashes : Bool
  /-- Whether a bracket that is never closed stands for itself. -/
  looseBrackets : Bool

/-- An open brace. -/
structure Brace where
  /-- The branches that are finished, last one first. -/
  finished : List (List Token)
  /-- The parts before the brace, last one first. -/
  outer : List Token

/-- What has been read. -/
structure Reading where
  /-- The parts of the open branch, last one first. -/
  branch : List Token := []
  braces : List Brace := []
  /-- Whether a bracket has turned out never to be closed. -/
  sawOpenBracket : Bool := false

namespace Reading

/-- Add a part to the open branch. -/
def push (reading : Reading) (token : Token) : Reading :=
  { reading with branch := token :: reading.branch }

/-- Put a part in the place of the last one. -/
def replaceLast (reading : Reading) (token : Token) : Reading :=
  { reading with branch := token :: reading.branch.tail }

/-- Add a character that stands for itself. -/
def pushChar (reading : Reading) (c : Char) : Reading :=
  { reading with
    branch := (c.toString.toUTF8.toList.map Token.byte).reverse ++ reading.branch }

/-- Open a brace. -/
def openBrace (reading : Reading) : Reading :=
  { reading with branch := [], braces := ⟨[], reading.branch⟩ :: reading.braces }

/-- Close the innermost brace. -/
def closeBrace? (reading : Reading) : Option Reading :=
  match reading.braces with
  | [] => none
  | brace :: others =>
    let branches := (reading.branch.reverse :: brace.finished).reverse
    some { reading with branch := .choice branches :: brace.outer, braces := others }

/-- A comma begins another branch inside braces and stands for itself elsewhere. -/
def comma (reading : Reading) : Reading :=
  match reading.braces with
  | [] => reading.pushChar ','
  | brace :: others =>
    { reading with
      branch := []
      braces := { brace with finished := reading.branch.reverse :: brace.finished } :: others }

end Reading

/-- Whether a text goes on with a slash or ends. -/
def slashOrEnd (cs : List Char) : Bool := cs.head?.all (· == '/')

/-- Whether a part of a pattern ends before `cs`: with the text, or with a branch. -/
def atPartEnd (inBraces : Bool) : List Char → Bool
  | [] => true
  | c :: _ => inBraces && (c == ',' || c == '\x7d')

/-- Read two stars; `before` is the character before them and `cs` the text after them. -/
def readStars (reading : Reading) (before : Option Char) (cs : List Char) :
    Reading × Option Char × List Char :=
  let plain := ((reading.push .star).push .star, some '*', cs)
  let inBraces := !reading.braces.isEmpty
  let afterBranch := inBraces && (before == some ',' || before == some '\x7b')
  if reading.branch.isEmpty then
    if slashOrEnd cs then (reading.push .leadingDirs, some '/', cs.tail) else plain
  -- Two stars next to a name are two wildcards like others.
  else if before != some '/' && !afterBranch then plain
  else
    let follows := fun (usual : Token) => match reading.branch.head? with
      | some .leadingDirs => .leadingDirs
      | some .trailingDirs => .trailingDirs
      | _ => usual
    if atPartEnd inBraces cs then (reading.replaceLast (follows .trailingDirs), some '*', cs)
    else if slashOrEnd cs then (reading.replaceLast (follows .innerDirs), some '/', cs.tail)
    else plain

/-- What a bracket may hold: ranges of characters, last one first, and whether the last
one is still to be ended. -/
structure Bracket where
  ranges : List (Char × Char) := []
  inRange : Bool := false

/-- The end of reading a bracket. -/
inductive BracketEnd where
  | closed (ranges : List (Char × Char)) (rest : List Char)
  | unclosed
  | malformed

/-- Add a character to a bracket; none if it ends a range that begins after it. -/
def Bracket.add? (bracket : Bracket) (c : Char) : Option Bracket :=
  match bracket.inRange, bracket.ranges with
  | true, (low, _) :: others => if c < low then none else some ⟨(low, c) :: others, false⟩
  | _, ranges => some ⟨(c, c) :: ranges, false⟩

/-- Read the rest of a bracket; `first` holds at its first character. -/
def readBracket (bracket : Bracket) (first : Bool) : List Char → BracketEnd
  | [] => .unclosed
  | c :: cs =>
    -- A bracket in front is a member, and so is a hyphen at either end.
    if c == ']' && !first then
      let ranges := if bracket.inRange then ('-', '-') :: bracket.ranges else bracket.ranges
      .closed ranges.reverse cs
    else if c == '-' && !first && !bracket.inRange then
      readBracket { bracket with inRange := true } false cs
    else if c == ']' then readBracket { bracket with ranges := (c, c) :: bracket.ranges } false cs
    else match bracket.add? c with
      | some bracket => readBracket bracket false cs
      | none => .malformed

/-- The ranges of bytes that a range of characters stands for: the last byte of its first
character runs to the first byte of its last one, and the others stand for themselves. -/
def byteRanges (range : Char × Char) : List (UInt8 × UInt8) :=
  let bytes := fun (c : Char) => c.toString.toUTF8.toList
  let (low, high) := range
  if low = high then (bytes low).map fun b => (b, b)
  else
    let before := (bytes low).dropLast.map fun b => (b, b)
    let after := (bytes high).tail.map fun b => (b, b)
    before ++ ((bytes low).getLast?.getD 0, (bytes high).headD 0) :: after

/-- Read the rest of a pattern; `before` is the character before it. -/
def readFrom (style : Style) : Nat → Reading → (before : Option Char) → List Char → Option Reading
  | 0, _, _, _ => none
  | _ + 1, reading, _, [] => some reading
  | fuel + 1, reading, before, c :: cs =>
    match c with
    | '?' => readFrom style fuel (reading.push .any) (some c) cs
    | '*' =>
      match cs with
      | '*' :: cs =>
        let (reading, before, cs) := readStars reading before cs
        readFrom style fuel reading before cs
      | cs => readFrom style fuel (reading.push .star) (some c) cs
    | '[' =>
      -- If one bracket is never closed, none of those after it is.
      if reading.sawOpenBracket then readFrom style fuel (reading.pushChar c) (some c) cs
      else
        let (negated, inner) := match cs with
          | '!' :: inner | '^' :: inner => (true, inner)
          | inner => (false, inner)
        match readBracket {} true inner with
        | .closed ranges rest =>
          let token := .set negated (ranges.flatMap byteRanges)
          readFrom style fuel (reading.push token) (some ']') rest
        | .unclosed =>
          if style.looseBrackets then
            let reading := { reading.pushChar c with sawOpenBracket := true }
            readFrom style fuel reading (some c) cs
          else none
        | .malformed => none
    | '\x7b' => readFrom style fuel reading.openBrace (some c) cs
    | '\x7d' => do readFrom style fuel (← reading.closeBrace?) (some c) cs
    | ',' => readFrom style fuel reading.comma (some c) cs
    | '\\' =>
      match cs with
      | [] => none
      | escaped :: cs => readFrom style fuel (reading.pushChar escaped) (some escaped) cs
    | c => readFrom style fuel (reading.pushChar c) (some c) cs

/-- Read a pattern. -/
def ofText? (style : Style) (text : String) : Option Glob := do
  let cs := text.toList
  let reading ← readFrom style (cs.length + 1) {} none cs
  if reading.braces.isEmpty then some ⟨reading.branch.reverse, style.keepSlashes⟩ else none

end SourceRetrieval.Glob
