/-
Bracketed classes in the text of a pattern.

* `Operand` collects the members of a class up to its end or to an operator;
* `readBracket` reads a bracketed class and tells how deep its text nests.

Design notes: operators have one precedence and group to the left.  Case is folded in the
operands of an operator and once more in the class as a whole, before it is negated.  A class
nests one deeper than what it holds, and so do several members beside each other, an operator
and a class within a class.
-/
import SourceRetrieval.Pattern.Escape

namespace SourceRetrieval.Pattern

open Unicode Reader

/-- How deep the text of a pattern may nest. -/
def nestLimit : Nat := 250

/-- The set of a named ASCII class such as `alpha`. -/
def namedClass? (name : String) : Option CodeSet :=
  let alnum : CodeSet := .union asciiLetters asciiDigits
  match name with
  | "alnum" => some alnum
  | "alpha" => some asciiLetters
  | "ascii" => some (.between '\x00' '\x7f')
  | "blank" => some (.ofChars ['\t', ' '])
  | "cntrl" => some (.union (.between '\x00' '\x1f') (.single '\x7f'))
  | "digit" => some asciiDigits
  | "graph" => some (.between '!' '~')
  | "lower" => some (.between 'a' 'z')
  | "print" => some (.between ' ' '~')
  | "punct" => some (.minus (.between '!' '~') alnum)
  | "space" => some asciiBlanks
  | "upper" => some (.between 'A' 'Z')
  | "word" => some asciiWord
  | "xdigit" => some (.unions [asciiDigits, .between 'A' 'F', .between 'a' 'f'])
  | _ => none

/-- How two sets of a bracketed class are combined. -/
inductive SetOp where
  | inter
  | minus
  | symmetric

/-- Combine two sets. -/
def SetOp.apply : SetOp → CodeSet → CodeSet → CodeSet
  | inter, left, right => left.inter right
  | minus, left, right => left.minus right
  | symmetric, left, right => left.symmetric right

/-- The operator that a text begins with, if it does. -/
def SetOp.leading? : List Char → Option SetOp
  | '&' :: '&' :: _ => some .inter
  | '-' :: '-' :: _ => some .minus
  | '~' :: '~' :: _ => some .symmetric
  | _ => none

/-- A set and how deep the text it was read from nests. -/
structure Nested where
  set : CodeSet
  depth : Nat := 0

/-- The members of a class so far. -/
structure Operand where
  /-- Their sets, last one first. -/
  members : List CodeSet := []
  /-- How deep the deepest of them nests. -/
  depth : Nat := 0

/-- Add a member. -/
def Operand.add (operand : Operand) (member : Nested) : Operand :=
  ⟨member.set :: operand.members, max operand.depth member.depth⟩

/-- All the members together. -/
def Operand.close (operand : Operand) : Nested :=
  { set := .unions operand.members
    depth := if operand.members.length < 2 then operand.depth else operand.depth + 1 }

/-- Combine the last operand with what stands before it. -/
def combine (flags : Flags) (before : Option (SetOp × Nested)) (last : Nested) : Nested :=
  match before with
  | none => last
  | some (op, first) =>
    ⟨op.apply (flags.close first.set) (flags.close last.set), max first.depth last.depth + 1⟩

/-- Read one member of a bracketed class: a literal or a set. -/
def readMember : Reader (Char ⊕ CodeSet) := do
  let c ← next
  if c == '\\' then
    match ← readEscape with
    | .literal c => return .inl c
    | .set chars => return .inr chars
    | .look _ => failure
  else return .inl c

/-- The character that follows a hyphen, past the blanks and the sign of one comment. -/
def beyondHyphen (flags : Flags) (after : List Char) : Option Char :=
  if !flags.verbose then after.head?
  else
    match after.dropWhile Text.isBlank with
    | '#' :: comment => (comment.dropWhile Text.isBlank).head?
    | rest => rest.head?

/-- Read one member of a bracketed class, or a range of them.  A hyphen that another hyphen
or the end of the class follows makes no range. -/
def readRange : Reader CodeSet := do
  let first ← readMember
  skipBlanks
  let cursor ← get
  let ranging := match cursor.rest with
    | '-' :: after =>
      let beyond := beyondHyphen cursor.flags after
      beyond != some ']' && beyond != some '-'
    | _ => false
  if ranging then
    step
    match first, ← readMember with
    | .inl low, .inl high =>
      if low.val ≤ high.val then return .between low high else failure
    | _, _ => failure
  else
    match first with
    | .inl c => return .single c
    | .inr chars => return chars

/-- Try to read a named class such as `[:alpha:]`, its bracket included. -/
def readNamedClass? : Reader (Option CodeSet) := do
  let cursor ← get
  match cursor.rest with
  | '[' :: ':' :: after =>
    let negated := after.head? == some '^'
    let body := if negated then after.tail else after
    let name := body.takeWhile (· != ':')
    match body.drop name.length, namedClass? (String.ofList name) with
    | ':' :: ']' :: rest, some chars =>
      set { cursor with rest := rest }
      return some (cursor.flags.finish negated chars)
    | _, _ => return none
  | _ => return none

/-- Read the hyphens at the beginning of a class, or else a bracket: they stand for
themselves. -/
def readLeading : Reader Operand := do
  let hyphens ← takeSpaced (· == '-') (← get).rest.length
  if hyphens.isEmpty && (← peek) == some ']' then
    step
    return ⟨[.single ']'], 0⟩
  else return ⟨hyphens.map fun c => .single c, 0⟩

mutual

/-- Read a bracketed class, its opening bracket being dropped already; `room` is how many
classes may be open. -/
def readClass : (fuel : Nat) → (room : Nat) → Reader Nested
  | 0, _ => failure
  | _, 0 => failure
  | fuel + 1, room + 1 => do
    skipBlanks
    let negated := (← peek) == some '^'
    if negated then step
    let opening ← readLeading
    let inside ← readMembers fuel room opening none
    let flags := (← get).flags
    let chars := flags.finish negated inside.set
    if flags.allows chars then return ⟨chars, inside.depth + 1⟩ else failure

/-- Read the members of a bracketed class up to its closing bracket. -/
def readMembers : (fuel : Nat) → (room : Nat) → Operand → Option (SetOp × Nested) → Reader Nested
  | 0, _, _, _ => failure
  | fuel + 1, room, operand, before => do
    skipBlanks
    let cursor ← get
    match cursor.rest with
    | [] => failure
    | ']' :: _ =>
      advance
      return combine cursor.flags before operand.close
    | '[' :: _ =>
      match ← readNamedClass? with
      | some chars =>
        if cursor.flags.allows chars then
          readMembers fuel room (operand.add ⟨chars, 0⟩) before
        else failure
      | none =>
        advance
        let inner ← readClass fuel room
        readMembers fuel room (operand.add inner) before
    | rest =>
      match SetOp.leading? rest with
      | some op =>
        advance
        advance
        readMembers fuel room {} (some (op, combine cursor.flags before operand.close))
      | none =>
        let chars ← readRange
        if cursor.flags.allows chars then
          readMembers fuel room (operand.add ⟨chars, 0⟩) before
        else failure

end

/-- Read a bracketed class, its opening bracket being dropped already. -/
def readBracket : Reader Nested := do
  readClass ((← get).rest.length + 1) nestLimit

end SourceRetrieval.Pattern
