/-
Reading the text of a pattern.

* `Piece` is a tree read so far, and how deep its text nests;
* `readNode?` turns pattern text into a tree, the names of its capture groups
  and their number; `none` means that the text is no pattern.

Design notes: the reader is a recursive descent over the characters still to
come.  Every call consumes a character before it calls again, so the length of
the text bounds the depth.  A flag such as `(?i)` holds from where it stands to
the end of the group around it, alternatives included.  A text nests one deeper in a
group, under a repetition, and where there are several items or alternatives.
-/
import SourceRetrieval.Unicode.Property
import SourceRetrieval.Pattern.Bracket

namespace SourceRetrieval.Pattern

open Unicode Reader

/-- A tree, and how deep the text it was read from nests. -/
structure Piece where
  node : Node
  depth : Nat := 0

/-- How deep the deepest of some pieces nests. -/
def deepest (pieces : List Piece) : Nat := pieces.foldl (fun depth piece => max depth piece.depth) 0

/-- The sequence of items read so far, last first. -/
def sequence (items : List Piece) : Piece :=
  match items with
  | [] => ⟨.empty, 0⟩
  | [item] => item
  | last :: before =>
    { node := before.foldl (fun later item => .andThen item.node later) last.node
      depth := deepest items + 1 }

/-- The alternatives read so far, last first. -/
def alternation (items : List Piece) : Piece :=
  match items with
  | [item] => item
  | items => ⟨.alternatives (items.reverse.map Piece.node), deepest items + 1⟩

/-- A character that may begin the name of a group. -/
def startsName (c : Char) : Bool := c == '_' || isAlphabetic c

/-- A character that may continue the name of a group. -/
def continuesName (c : Char) : Bool :=
  c == '_' || c == '.' || c == '[' || c == ']' || isAlphanumeric c

/-- Begin the next capture group. -/
def readIndex : Reader Nat :=
  modifyGet fun cursor => (cursor.groups, { cursor with groups := cursor.groups + 1 })

/-- Read the name of a group and begin that group. -/
def readName : Reader Nat := do
  let name ← takeUntil '>'
  match name with
  | [] => failure
  | c :: cs =>
    let text := String.ofList name
    if startsName c && cs.all continuesName && !(← get).names.any (·.1 == text) then
      let index ← readIndex
      modify fun cursor => { cursor with names := cursor.names ++ [(text, index)] }
      return index
    else failure

/-- The flags with the one of a letter turned on or off. -/
def Flags.switch? (flags : Flags) (letter : Char) (on : Bool) : Option Flags :=
  match letter with
  | 'i' => some { flags with ignoreCase := on }
  | 'm' => some { flags with multiLine := on }
  | 's' => some { flags with dotAll := on }
  | 'U' => some { flags with swapGreed := on }
  | 'x' => some { flags with verbose := on }
  | 'R' => some { flags with pairedEnds := on }
  | 'u' => some { flags with unicode := on }
  | _ => none

/-- Read flags up to the character that ends them, which is returned.  No letter may come
twice; the letters behind a hyphen turn flags off, and there has to be one. -/
def readFlags : Nat → Flags → (seen : List Char) → Reader (Flags × Char)
  | 0, _, _ => failure
  | fuel + 1, flags, seen => do
    let c ← next
    if c == ':' || c == ')' then
      if seen.head? == some '-' then failure else return (flags, c)
    else if seen.contains c then failure
    else if c == '-' then readFlags fuel flags (c :: seen)
    else
      let some changed := flags.switch? c (!seen.contains '-') | failure
      readFlags fuel changed (c :: seen)

/-- How a parenthesis opens. -/
inductive Opening where
  /-- A capture group of a number. -/
  | capture (index : Nat)
  /-- A group that captures nothing. -/
  | plain
  /-- Flags alone, with no body. -/
  | flagsOnly

/-- Read how a parenthesis opens, the parenthesis being dropped already.  Conditions on what
stands before or after a position are no part of patterns. -/
def readOpening : Reader Opening := do
  skipBlanks
  if (← looksAt "?=") || (← looksAt "?!") || (← looksAt "?<=") || (← looksAt "?<!") then failure
  if ← dropIf "?P<" then return .capture (← readName)
  if ← dropIf "?<" then return .capture (← readName)
  if ← dropIf "?" then
    if (← peek) == some ')' then failure
    let cursor ← get
    let (flags, stop) ← readFlags cursor.rest.length cursor.flags []
    modify fun cursor => { cursor with flags := flags }
    return if stop == ')' then .flagsOnly else .plain
  return .capture (← readIndex)

/-- Read a decimal number of a repetition, with the blanks around it. -/
def readCount : Reader Nat := do
  dropBlanks
  let digits ← takeSpaced Char.isDigit (← get).rest.length
  dropBlanks
  let count := digits.foldl (fun n c => n * 10 + (c.toNat - 48)) 0
  if digits.isEmpty || count ≥ Nat.pow 2 32 then failure else return count

/-- Read the bounds of a counted repetition, which stand in braces. -/
def readBounds : Reader (Nat × Option Nat) := do
  step
  let least ← readCount
  let most ←
    if (← peek) == some ',' then do
      step
      if (← peek) == some '\x7d' then pure none else some <$> readCount
    else pure (some least)
  expect '\x7d'
  skipBlanks
  if most.all (least ≤ ·) then return (least, most) else failure

/-- Read the bounds of a repetition, if one comes next. -/
def readRepetition? : Reader (Option (Nat × Option Nat)) := do
  skipBlanks
  match ← peek with
  | some '*' =>
    advance
    return some (0, none)
  | some '+' =>
    advance
    return some (1, none)
  | some '?' =>
    advance
    return some (0, some 1)
  | some '\x7b' => return some (← readBounds)
  | _ => return none

/-- Read the repetitions that follow an item. -/
def readCopies : Nat → Piece → Reader Piece
  | 0, piece => return piece
  | fuel + 1, piece => do
    match ← readRepetition? with
    | none => return piece
    | some (least, most) =>
      let lazy ← dropIf "?"
      let greedy := lazy == (← get).flags.swapGreed
      readCopies fuel ⟨.repeated piece.node least most greedy, piece.depth + 1⟩

/-- Read one character, class, escape or condition. -/
def readAtom : Reader Piece := do
  let c ← next
  let flags := (← get).flags
  match c with
  | '*' | '+' | '?' | '\x7b' => failure
  | '.' =>
    if !flags.unicode then failure
    else if flags.dotAll then return ⟨.chars .all, 0⟩
    else
      let ends : CodeSet := .ofChars (if flags.pairedEnds then ['\n', '\r'] else ['\n'])
      return ⟨.chars ends.complement, 0⟩
  | '^' =>
    return ⟨.look (if !flags.multiLine then .textStart
      else if flags.pairedEnds then .lineStartPair else .lineStart), 0⟩
  | '$' =>
    return ⟨.look (if !flags.multiLine then .textEnd
      else if flags.pairedEnds then .lineEndPair else .lineEnd), 0⟩
  | '[' =>
    let nested ← readBracket
    return ⟨.chars nested.set, nested.depth⟩
  | '\\' =>
    match ← readEscape with
    | .literal c => return ⟨.chars (flags.close (.single c)), 0⟩
    | .set chars => return ⟨.chars chars, 0⟩
    | .look condition => return ⟨.look condition, 0⟩
  | c => return ⟨.chars (flags.close (.single c)), 0⟩

/-- Read alternatives up to the end of the group around them; `room` is how many groups may
be open, `done` holds the alternatives and `items` the items of the last one, both last
first. -/
def readAlternatives : (fuel room : Nat) → (done items : List Piece) → Reader Piece
  | 0, _, _, _ => failure
  | _, 0, _, _ => failure
  | fuel + 1, room + 1, done, items => do
    skipBlanks
    match ← peek with
    | none | some ')' => return alternation (sequence items :: done)
    | some '|' =>
      advance
      readAlternatives fuel (room + 1) (sequence items :: done) []
    | some '(' =>
      advance
      let outer := (← get).flags
      match ← readOpening with
      | .flagsOnly => readAlternatives fuel (room + 1) done (⟨.empty, 0⟩ :: items)
      | opening =>
        let body ← readAlternatives fuel room [] []
        expect ')'
        modify fun cursor => { cursor with flags := outer }
        let node := match opening with
          | .capture index => .group index body.node
          | _ => body.node
        let item ← readCopies fuel ⟨node, body.depth + 1⟩
        readAlternatives fuel (room + 1) done (item :: items)
    | some _ =>
      let atom ← readAtom
      let item ← readCopies fuel atom
      readAlternatives fuel (room + 1) done (item :: items)

/-- Read a whole pattern under the flags it begins with: its tree, its named
groups and the number of its groups. -/
def readNode? (flags : Flags) (chars : List Char) : Option (Node × List (String × Nat) × Nat) := do
  let reader := readAlternatives (chars.length + 2) (nestLimit + 1) [] []
  let (piece, final) ← reader.run ⟨chars, flags, 1, []⟩
  if final.rest.isEmpty && piece.depth ≤ nestLimit then
    return (piece.node, final.names, final.groups)
  else none

end SourceRetrieval.Pattern
