/-
Patterns as programs of a backtracking machine.

* `Instr` is one state of a program;
* `Node.emit` appends the states of a tree to a program;
* `Program.ofNode` is the program of a whole pattern, which saves the ends of
  the match as group 0.

Design notes: a tree is laid out from its end to its beginning, so the state
that follows it is known when it is emitted; only a loop reserves its own state
first and fills it in afterwards.  A loop over a body that may match the empty
text is laid out as an optional one-or-more loop, which keeps the order of
preference among the ways to go round it.
-/
import SourceRetrieval.Pattern.Basic

namespace SourceRetrieval.Pattern

open Unicode

/-- One state of a program. -/
inductive Instr where
  /-- Consume a character of the set and go on. -/
  | take (set : CodeSet) (next : Nat)
  /-- Go on if the condition holds here. -/
  | look (condition : Look) (next : Nat)
  /-- Remember the position in a slot and go on. -/
  | save (slot next : Nat)
  /-- Go on at `first`, or else at `second`. -/
  | split (first second : Nat)
  /-- Go nowhere. -/
  | fail
  /-- The text so far is a match. -/
  | accept

/-- A list of states under construction. -/
abbrev Layout := StateM (Array Instr)

/-- Append a state and return its number. -/
def place (instr : Instr) : Layout Nat :=
  modifyGet fun states => (states.size, states.push instr)

/-- Fill in a state that was reserved before. -/
def fill (state : Nat) (instr : Instr) : Layout Unit :=
  modify (·.set! state instr)

/-- The state that prefers `more` to `done` if `greedy`, and the other way round if not. -/
def choice (greedy : Bool) (more done : Nat) : Instr :=
  if greedy then .split more done else .split done more

/-- Lay out a loop that goes round any number of times and then on to `next`. -/
def starLoop (body : Nat → Layout Nat) (greedy : Bool) (next : Nat) : Layout Nat := do
  let turn ← place .fail
  let entry ← body turn
  fill turn (choice greedy entry next)
  return turn

/-- Lay out a loop that goes round at least once and then on to `next`. -/
def plusLoop (body : Nat → Layout Nat) (greedy : Bool) (next : Nat) : Layout Nat := do
  let turn ← place .fail
  let entry ← body turn
  fill turn (choice greedy entry next)
  return entry

/-- Lay out `n` copies in a row, the last of which goes on to `next`. -/
def chain (body : Nat → Layout Nat) : Nat → Nat → Layout Nat
  | 0, next => return next
  | n + 1, next => do
    let later ← body next
    chain body n later

/-- Lay out up to `n` copies that go on to `later`, each of which may leave for `next`
instead. -/
def optional (body : Nat → Layout Nat) (greedy : Bool) (next : Nat) : Nat → Nat → Layout Nat
  | 0, later => return later
  | n + 1, later => do
    let entry ← body later
    let turn ← place (choice greedy entry next)
    optional body greedy next n turn

/-- Lay out a tree that goes on to `next`; the result is the state it begins with. -/
def Node.emit : Node → Nat → Layout Nat
  | .empty, next => return next
  | .chars set, next => place (.take set next)
  | .look condition, next => place (.look condition next)
  | .concat first second, next => do
    let later ← second.emit next
    first.emit later
  | .either first second, next => do
    let right ← second.emit next
    let left ← first.emit next
    place (.split left right)
  | .group index body, next => do
    let closing ← place (.save (2 * index + 1) next)
    let inner ← body.emit closing
    place (.save (2 * index) inner)
  | .copies body least most greedy, next => do
    match most with
    | some most =>
      let tail ← optional body.emit greedy next (most - least) next
      chain body.emit least tail
    | none =>
      match least with
      | 0 =>
        if body.nullable then
          let loop ← plusLoop body.emit greedy next
          place (choice greedy loop next)
        else starLoop body.emit greedy next
      | more + 1 =>
        let loop ← plusLoop body.emit greedy next
        chain body.emit more loop

/-- A program and the state it begins with. -/
structure Program where
  states : Array Instr
  start : Nat

/-- The program of a pattern. -/
def Program.ofNode (node : Node) : Program :=
  let layout : Layout Nat := do
    let done ← place .accept
    (Node.group 0 node).emit done
  let (start, states) := layout.run #[]
  ⟨states, start⟩

end SourceRetrieval.Pattern
