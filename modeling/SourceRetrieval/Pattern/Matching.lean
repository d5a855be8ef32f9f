/-
Running patterns over a text.

* `Machine` is a compiled pattern, `Subject` a text made ready for matching;
* `Machine.findAll` lists the matches from left to right, `Machine.matchAtStart?` is the match at
  the very beginning, if there is one;
* `Pattern.ofText?` and `Pattern.ofLines?` compile the text of a pattern.

Design notes: of all matches the leftmost counts, and of those the one that a
backtracking search meets first.  A branching state that was tried at a
position is never tried there again, because it would fail again: a search
therefore takes time in proportion to the length of the text, and the number
of its steps is bounded beforehand.
-/
import Std.Data.TreeSet
import SourceRetrieval.Pattern.Matches
import SourceRetrieval.Pattern.Reader
import SourceRetrieval.Pattern.Size
import SourceRetrieval.Pattern.Program

namespace SourceRetrieval.Pattern

/-- A compiled pattern. -/
structure Machine where
  program : Program
  /-- The names of the groups with their numbers. -/
  names : List (String × Nat)
  /-- How many groups there are, the whole match included. -/
  groups : Nat

/-- A text made ready for matching: its characters, and the offset of each of
them and of the end. -/
structure Subject where
  chars : Array Char
  offsets : Array Nat

/-- Make a text ready for matching. -/
def Subject.ofChars (cs : List Char) : Subject :=
  { chars := cs.toArray
    offsets := (cs.foldl (fun (table, n) c => (table.push (n + c.utf8Size), n + c.utf8Size))
      (#[0], 0)).1 }

/-- The positions a search has remembered. -/
abbrev Slots := Array (Option Nat)

/-- A branch to try later. -/
structure Branch where
  state : Nat
  position : Nat
  slots : Slots

/-- The branching states tried so far, each with its position. -/
abbrev Tried := Std.TreeSet Nat

/-- Search on from a state and a position; `branches` holds what to try when that
fails, nearest first.  `fuel` bounds the number of steps. -/
def explore (states : Array Instr) (chars : Array Char) :
    (fuel : Nat) → Tried → (state position : Nat) → Slots → List Branch → Option Slots × Tried
  | 0, tried, _, _, _, _ => (none, tried)
  | fuel + 1, tried, state, position, slots, branches =>
    let retreat (_ : Unit) : Option Slots × Tried :=
      match branches with
      | [] => (none, tried)
      | branch :: others =>
        explore states chars fuel tried branch.state branch.position branch.slots others
    match states[state]? with
    | none => retreat ()
    | some .fail => retreat ()
    | some .accept => (some slots, tried)
    | some (.take set next) =>
      match chars[position]? with
      | some c =>
        if set.has c then explore states chars fuel tried next (position + 1) slots branches
        else retreat ()
      | none => retreat ()
    | some (.look condition next) =>
      let before := if position == 0 then none else chars[position - 1]?
      if condition.holds before chars[position]? then
        explore states chars fuel tried next position slots branches
      else retreat ()
    | some (.save slot next) =>
      explore states chars fuel tried next position (slots.set! slot (some position)) branches
    | some (.split first second) =>
      let key := position * states.size + state
      if tried.contains key then retreat ()
      else
        explore states chars fuel (tried.insert key) first position slots
          (⟨second, position, slots⟩ :: branches)

/-- A bound on the steps of a search over `n` characters: each branching state is
entered once at each position, and between two branchings no state occurs twice. -/
def stepBound (states n : Nat) : Nat := 4 * (states + 2) * (states + 2) * (n + 2)

/-- Search for the leftmost match among the starts from `position` on, `remaining`
of them being left. -/
def Machine.searchFrom (machine : Machine) (chars : Array Char) (fuel : Nat) :
    (remaining : Nat) → (position : Nat) → Tried → Option Slots
  | 0, _, _ => none
  | remaining + 1, position, tried =>
    let blank : Slots := Array.replicate (2 * machine.groups) none
    match explore machine.program.states chars fuel tried machine.program.start position blank [] with
    | (some slots, _) => some slots
    | (none, tried) => machine.searchFrom chars fuel remaining (position + 1) tried

/-- The stretch of the subject between two positions. -/
def Subject.group (subject : Subject) (start stop : Nat) : Group :=
  { start := subject.offsets.getD start 0
    stop := subject.offsets.getD stop 0
    text := (subject.chars.extract start stop).toList }

/-- The stretch that a group of the pattern took, if it took part. -/
def Subject.slotGroup? (subject : Subject) (slots : Slots) (index : Nat) : Option Group := do
  let start ← (slots[2 * index]?).join
  let stop ← (slots[2 * index + 1]?).join
  return subject.group start stop

/-- The match that a search has remembered. -/
def Machine.toMatch (machine : Machine) (subject : Subject) (slots : Slots) : Match :=
  { whole := (subject.slotGroup? slots 0).getD (subject.group 0 0)
    named := machine.names.filterMap fun (name, index) =>
      (subject.slotGroup? slots index).map fun group => (name, group) }

/-- The positions where the match of a search begins and ends. -/
def bounds (slots : Slots) : Nat × Nat :=
  (((slots[0]?).join).getD 0, ((slots[1]?).join).getD 0)

/-- The matches at or after `position`; `lastEnd` is where the match before them ended.
An empty match right at that end is passed over. -/
def Machine.matchesFrom (machine : Machine) (subject : Subject) :
    (fuel : Nat) → (position : Nat) → (lastEnd : Option Nat) → List Match
  | 0, _, _ => []
  | fuel + 1, position, lastEnd =>
    let n := subject.chars.size
    let steps := stepBound machine.program.states.size n
    if n < position then []
    else match machine.searchFrom subject.chars steps (n + 1 - position) position ∅ with
      | none => []
      | some slots =>
        let (start, stop) := bounds slots
        if start == stop && lastEnd == some stop then
          machine.matchesFrom subject fuel (position + 1) lastEnd
        else machine.toMatch subject slots :: machine.matchesFrom subject fuel stop (some stop)

/-- The matches of a machine in a text, from left to right. -/
def Machine.findAll (machine : Machine) (subject : Subject) : List Match :=
  machine.matchesFrom subject (2 * subject.chars.size + 2) 0 none

/-- The match at the very beginning of a text. -/
def Machine.matchAtStart? (machine : Machine) (subject : Subject) : Option Match :=
  let steps := stepBound machine.program.states.size subject.chars.size
  (machine.searchFrom subject.chars steps 1 0 ∅).map (machine.toMatch subject)

/-- The pattern that a machine searches for. -/
def Machine.toPattern (machine : Machine) : Pattern where
  findAll cs := machine.findAll (Subject.ofChars cs)
  matchAtStart? cs := machine.matchAtStart? (Subject.ofChars cs)
  hasGroup name := machine.names.any (·.1 == name)

/-- The machine of a tree whose groups have these names. -/
def Machine.ofNode (node : Node) (names : List (String × Nat)) (groups : Nat) : Machine :=
  ⟨Program.ofNode node, names.filter fun (_, index) => node.hasGroup index, groups⟩

/-- Compile a pattern; `none` if the text is no pattern or its program would be too large. -/
def ofText? (text : String) : Option Pattern := do
  let (node, names, groups) ← readNode? {} text.toList
  if node.isSmall then return (Machine.ofNode node names groups).toPattern else none

/-- Compile a pattern whose `^` and `$` hold at every line, of a size known to be small. -/
def ofLines? (text : List Char) : Option Pattern := do
  let (node, names, groups) ← readNode? { multiLine := true } text
  return (Machine.ofNode node names groups).toPattern

end SourceRetrieval.Pattern
