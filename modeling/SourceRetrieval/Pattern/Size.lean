/-
How much room a pattern takes as an automaton over bytes.

* `Node.forwardSize` and `Node.backwardSize` are the bytes of the two automata that read a
  text from its beginning and from its end;
* `Node.isSmall` decides whether both stay within the limit.

Design notes: a state takes 32 bytes, and besides them each branch of a state 4 and each byte
range of a state 8.  Copies are counted, not shared.  A set outside ASCII becomes the byte
sequences of its members: forward, equal endings are shared; backward, equal beginnings.
-/
import Std.Data.HashMap
import SourceRetrieval.Unicode.ByteRanges
import SourceRetrieval.Pattern.Basic

namespace SourceRetrieval.Pattern

open Unicode

/-- The bytes of a state. -/
def stateSize : Nat := 32

/-- The bytes of a branch of a state. -/
def branchSize : Nat := 4

/-- The bytes of a byte range of a state. -/
def rangeSize : Nat := 8

/-- The bytes of a state with so many branches. -/
def forkSize (count : Nat) : Nat := stateSize + branchSize * count

/-- The bytes of a state with so many byte ranges, and of the state they lead to. -/
def rangesSize (count : Nat) : Nat := 2 * stateSize + rangeSize * count

/-- How many ranges two sequences have in common at their beginning. -/
def commonLength : List ByteRange → List ByteRange → Nat
  | range :: ranges, other :: others =>
    if range == other then commonLength ranges others + 1 else 0
  | _, _ => 0

/-- How many different beginnings some sequences in order have; `before` is the one before
them. -/
def beginnings (before : List ByteRange) : List (List ByteRange) → Nat
  | [] => 0
  | sequence :: later =>
    sequence.length - commonLength before sequence + beginnings sequence later

/-- The bytes of a set outside ASCII read backward: a branch for each sequence, and a
state for each beginning. -/
def backwardSetSize (set : CodeSet) : Nat :=
  let sequences := set.byteSequences
  forkSize sequences.length + stateSize + stateSize * beginnings [] sequences

/-- The states of an automaton so far, each known by its byte ranges and where they lead,
and their bytes. -/
structure Endings where
  states : Std.HashMap (List (ByteRange × Nat)) Nat := {}
  bytes : Nat := 0

/-- Group sequences in order by their first range. -/
def groupByFirst (sequences : List (List ByteRange)) : List (ByteRange × List (List ByteRange)) :=
  sequences.foldr step []
where
  /-- Put one more sequence in front of the groups of the rest. -/
  step (sequence : List ByteRange) (groups : List (ByteRange × List (List ByteRange))) :=
    match sequence, groups with
    | [], groups => groups
    | range :: rest, (first, tails) :: others =>
      if range == first then (first, rest :: tails) :: others
      else (range, [rest]) :: (first, tails) :: others
    | range :: rest, [] => [(range, [rest])]

/-- The state that accepts some sequences of at most so many ranges: the final state,
numbered 0, if nothing is left of them. -/
def Endings.place : Nat → List (List ByteRange) → StateM Endings Nat
  | 0, _ => return 0
  | longest + 1, sequences => do
    let groups := groupByFirst sequences
    if groups.isEmpty then return 0
    let state ← groups.mapM fun (range, tails) => return (range, ← Endings.place longest tails)
    let known ← get
    match known.states[state]? with
    | some number => return number
    | none =>
      let number := known.states.size + 1
      set (Endings.mk (known.states.insert state number)
        (known.bytes + stateSize + rangeSize * state.length))
      return number

/-- The bytes of a set outside ASCII read forward. -/
def forwardSetSize (set : CodeSet) : Nat :=
  let (_, endings) := (Endings.place 4 set.byteSequences).run {}
  stateSize + endings.bytes

/-- A state of a tree of texts: the stretches between the texts that end there, each of
which lists the bytes that follow with the texts behind them, all in order of reading. -/
abbrev TextState := List (List (Nat × List (List Nat)))

/-- Put a text behind its first byte. -/
def addText (byte : Nat) (rest : List Nat) : List (Nat × List (List Nat)) →
    List (Nat × List (List Nat))
  | [] => [(byte, [rest])]
  | (other, texts) :: branches =>
    if other == byte then (other, texts ++ [rest]) :: branches
    else (other, texts) :: addText byte rest branches

/-- The state that some texts lead on from; `before` holds the stretches that have ended, last
one first, and `branches` is the open one.  A text that ends ends a stretch, unless others
have ended already and none goes on. -/
def textState (before : TextState) (branches : List (Nat × List (List Nat))) :
    List (List Nat) → TextState
  | [] => (branches :: before).reverse
  | [] :: texts =>
    if !before.isEmpty && (branches :: before).all List.isEmpty then
      textState before branches texts
    else textState (branches :: before) [] texts
  | (byte :: rest) :: texts => textState before (addText byte rest branches) texts

/-- The bytes of one stretch of a state. -/
def stretchSize (branches : List (Nat × List (List Nat))) : Nat :=
  match branches.length with
  | 0 => 0
  | 1 => stateSize
  | count => stateSize + rangeSize * count

/-- The bytes of the tree of some texts of at most so many bytes, its last state left out. -/
def treeSize : Nat → List (List Nat) → Nat
  | 0, _ => 0
  | longest + 1, texts =>
    if texts.all List.isEmpty then 0
    else
      let state := textState [] [] texts
      let stretches := state.countP fun branches => !branches.isEmpty
      let own := (state.map stretchSize).foldl (· + ·) 0
      let below := (state.flatten.map fun branch => treeSize longest branch.2).foldl (· + ·) 0
      own + forkSize (stretches + state.length - 1) + below

/-- The bytes of alternatives that are texts, read in the order of their bytes. -/
def textsSize (texts : List (List Nat)) : Nat :=
  stateSize + treeSize ((texts.map List.length).foldl max 0 + 1) texts

/-- The bytes of the encoding of a text. -/
def textBytes (text : List Char) : List Nat :=
  (String.ofList text).toUTF8.toList.map UInt8.toNat

/-- One of the automata: in which direction it reads, and the bytes of a capture group. -/
structure Automaton where
  backward : Bool
  groupSize : Nat

/-- The automaton that reads forward: it finds where a match begins, and keeps the ends of
groups. -/
def forwardAutomaton : Automaton := ⟨false, 2 * stateSize⟩

/-- The automaton that reads backward: it finds where a match ends, and keeps no groups. -/
def backwardAutomaton : Automaton := ⟨true, 0⟩

/-- The bytes of a set. -/
def Automaton.setSize (automaton : Automaton) (set : CodeSet) : Nat :=
  match set.single? with
  | some c => stateSize * c.utf8Size
  | none =>
    if set.isAscii then rangesSize set.asciiRanges.length
    else if automaton.backward then backwardSetSize set
    else forwardSetSize set

/-- The bytes of alternatives that are texts. -/
def Automaton.textsSize (automaton : Automaton) (texts : List (List Char)) : Nat :=
  Pattern.textsSize <| texts.map fun text =>
    if automaton.backward then (textBytes text).reverse else textBytes text

namespace Node

/-- The text that a tree stands for, if it stands for one. -/
def text? : Node → Option (List Char)
  | chars set => set.single?.map ([·])
  | concat first second => return (← first.text?) ++ (← second.text?)
  | _ => none

/-- The least length of a match; `none` if some way through the tree matches nothing. -/
def leastLength : Node → Option Nat
  | empty => some 0
  | chars set => if set.isEmpty then none else some 1
  | look _ => some 0
  | concat first second => return (← first.leastLength) + (← second.leastLength)
  | either first second => return min (← first.leastLength) (← second.leastLength)
  | group _ body => body.leastLength
  | copies body least _ _ => return (← body.leastLength) * least

/-- Whether the tree is a choice between alternatives. -/
def isChoice : Node → Bool
  | either _ _ => true
  | _ => false

/-- The bytes of a tree; `amongOthers` if alternatives come before it. -/
def bytes (automaton : Automaton) (amongOthers : Bool) : Node → Nat
  | empty => stateSize
  | chars set => automaton.setSize set
  | look _ => stateSize
  | concat first second => first.bytes automaton false + second.bytes automaton false
  | either first second =>
    match if amongOthers then none else (first :: second.branches).mapM text? with
    | some texts => automaton.textsSize texts
    | none =>
      let choice := if second.isChoice then branchSize else forkSize 2 + stateSize
      first.bytes automaton false + second.bytes automaton true + choice
  | group _ body => body.bytes automaton false + automaton.groupSize
  | copies body least most _ =>
    let one := body.bytes automaton false
    match most with
    | none =>
      let always := body.leastLength.any (0 < ·)
      if least == 0 && !always then one + 2 * forkSize 2 + stateSize
      else max least 1 * one + forkSize 2
    | some most =>
      let leaving := (most - least) * (one + forkSize 2)
      if least == most then least * one
      else if least == 0 && most == 1 then leaving + stateSize
      else (if least == 0 then stateSize else least * one) + stateSize + leaving

/-- The bytes of the automaton that reads forward. -/
def forwardSize (node : Node) : Nat :=
  forkSize 2 + rangesSize 1 + 3 * stateSize + node.bytes forwardAutomaton false

/-- The bytes of the automaton that reads backward. -/
def backwardSize (node : Node) : Nat :=
  forkSize 2 + rangesSize 1 + stateSize + node.bytes backwardAutomaton false

/-- The most bytes that an automaton may take. -/
def sizeLimit : Nat := 10 * 1024 * 1024

/-- Whether both automata of a pattern stay within the limit. -/
def isSmall (node : Node) : Bool :=
  node.backwardSize ≤ sizeLimit && node.forwardSize ≤ sizeLimit

end Node

end SourceRetrieval.Pattern
