/-
Patterns over text: conditions on positions and the syntax tree.

* `Look` is a condition on a position of a text, decided by `Look.holds`;
* `Node` is the tree of a pattern, whose leaves are sets of characters and conditions;
* `Node.andThen`, `Node.alternatives` and `Node.repeated` build trees and leave out what
  makes no difference;
* `Node.items` are the items of a sequence, characters in a row being one item.

Design notes: the tree already carries what the flags of the pattern text
decide (case folding, line mode, greediness), so nothing after the reader
knows of flags.
-/
import SourceRetrieval.Unicode.Query

namespace SourceRetrieval.Pattern

open Unicode

/-- Which side of a word a position has to be on. -/
inductive WordEdge where
  /-- Exactly one of the two neighbours belongs to a word. -/
  | boundary
  /-- Both neighbours belong to a word, or neither does. -/
  | inside
  /-- A word begins here. -/
  | start
  /-- A word ends here. -/
  | stop
  /-- No word character stands before. -/
  | startHalf
  /-- No word character stands after. -/
  | stopHalf
  deriving DecidableEq

/-- A condition on a position, which consumes nothing. -/
inductive Look where
  | textStart
  | textEnd
  | lineStart
  | lineEnd
  /-- As `lineStart`, a carriage return and a newline ending one line together. -/
  | lineStartPair
  /-- As `lineEnd`, a carriage return and a newline ending one line together. -/
  | lineEndPair
  /-- A condition on words, which are made of ASCII characters alone if `ascii`. -/
  | word (edge : WordEdge) (ascii : Bool)
  deriving DecidableEq

/-- Whether a character belongs to a word. -/
def isWordChar (ascii : Bool) (c : Char) : Bool :=
  if c.toNat < 128 then c.isAlphanum || c == '_' else !ascii && Trait.word.has c

/-- Whether a neighbour, if there is one, belongs to a word. -/
def inWord (ascii : Bool) (neighbour : Option Char) : Bool := neighbour.any (isWordChar ascii)

/-- Whether a position between word characters or others is on the right side. -/
def WordEdge.holds (edge : WordEdge) (before after : Bool) : Bool :=
  match edge with
  | boundary => before != after
  | inside => before == after
  | start => !before && after
  | stop => before && !after
  | startHalf => !before
  | stopHalf => !after

/-- Whether the condition holds between the neighbours `before` and `after`. -/
def Look.holds (look : Look) (before after : Option Char) : Bool :=
  match look with
  | textStart => before.isNone
  | textEnd => after.isNone
  | lineStart => before.isNone || before == some '\n'
  | lineEnd => after.isNone || after == some '\n'
  | lineStartPair =>
    before.isNone || before == some '\n' || (before == some '\r' && after != some '\n')
  | lineEndPair =>
    after.isNone || after == some '\r' || (after == some '\n' && before != some '\r')
  | word edge ascii => edge.holds (inWord ascii before) (inWord ascii after)

/-- The tree of a pattern. -/
inductive Node where
  /-- The empty text. -/
  | empty
  /-- One character of a set. -/
  | chars (set : CodeSet)
  | look (condition : Look)
  | concat (first second : Node)
  /-- Either tree, the first being preferred. -/
  | either (first second : Node)
  /-- The capture group of a number. -/
  | group (index : Nat) (body : Node)
  /-- From `least` to `most` copies, as many as possible if `greedy`. -/
  | copies (body : Node) (least : Nat) (most : Option Nat) (greedy : Bool)
  deriving Inhabited, BEq

namespace Node

/-- Whether the tree can match the empty text. -/
def nullable : Node → Bool
  | empty => true
  | chars _ => false
  | look _ => true
  | concat first second => first.nullable && second.nullable
  | either first second => first.nullable || second.nullable
  | group _ body => body.nullable
  | copies body least _ _ => least == 0 || body.nullable

/-- Whether the tree matches nothing but the empty text. -/
def matchesOnlyEmpty : Node → Bool
  | empty => true
  | chars _ => false
  | look _ => true
  | concat first second => first.matchesOnlyEmpty && second.matchesOnlyEmpty
  | either first second => first.matchesOnlyEmpty && second.matchesOnlyEmpty
  | group _ body => body.matchesOnlyEmpty
  | copies body _ _ _ => body.matchesOnlyEmpty

/-- Whether the tree holds the capture group of a number. -/
def hasGroup (wanted : Nat) : Node → Bool
  | empty => false
  | chars _ => false
  | look _ => false
  | concat first second => first.hasGroup wanted || second.hasGroup wanted
  | either first second => first.hasGroup wanted || second.hasGroup wanted
  | group index body => index == wanted || body.hasGroup wanted
  | copies body _ _ _ => body.hasGroup wanted

/-- One tree after another; the empty text needs no place. -/
def andThen (first second : Node) : Node :=
  match first, second with
  | empty, second => second
  | first, empty => first
  | first, second => concat first second

/-- The alternatives of a tree, in order of preference. -/
def branches : Node → List Node
  | either first second => first.branches ++ second.branches
  | node => [node]

/-- The set of a leaf. -/
def set? : Node → Option CodeSet
  | chars set => some set
  | _ => none

/-- Whether a tree is the leaf of one character. -/
def isSingle : Node → Bool
  | chars set => set.single?.isSome
  | _ => false

/-- Whether a tree is a text: one character, or several in a row. -/
def isText : Node → Bool
  | concat first _ => first.isSingle
  | node => node.isSingle

/-- Put items in front of others, two texts that meet becoming one. -/
def joinItems : List Node → List Node → List Node
  | [], others => others
  | [item], other :: others =>
    if item.isText && other.isText then joinTexts item other :: others else item :: other :: others
  | item :: items, others => item :: joinItems items others
where
  /-- A text after another. -/
  joinTexts : Node → Node → Node
    | concat first rest, other => concat first (joinTexts rest other)
    | first, other => concat first other

/-- The items of a sequence; characters in a row make one item, a text. -/
def items : Node → List Node
  | empty => []
  | concat first second => joinItems first.items second.items
  | node => [node]

/-- The sequence of some items. -/
def ofItems (items : List Node) : Node := items.foldr andThen empty

/-- The items that two sequences have in common at their beginning. -/
def sharedItems : List Node → List Node → List Node
  | item :: items, other :: others =>
    if item == other then item :: sharedItems items others else []
  | _, _ => []

/-- Trees none of which is a choice, as alternatives in order of preference.  Alternatives
that are all one character make a set, and so do alternatives that are all sets of no or
several characters. -/
def choose (parts : List Node) : Node :=
  match parts.mapM set? with
  | some sets =>
    let singles := sets.countP fun set => set.single?.isSome
    if singles == 0 || singles == sets.length then chars (.unions sets) else ofParts parts
  | none => ofParts parts
where
  /-- The alternatives as they are. -/
  ofParts : List Node → Node
    | [] => chars .empty
    | [part] => part
    | part :: parts => either part (ofParts parts)

/-- Trees as alternatives, in order of preference.  If all are sequences of several items,
those that all begin with stand before the choice. -/
def alternatives (nodes : List Node) : Node :=
  let parts := nodes.flatMap branches
  match parts.map items with
  | [] | [_] => choose parts
  | first :: others =>
    let shared := others.foldl sharedItems first
    if shared.isEmpty || !(first :: others).all (1 < ·.length) then choose parts
    else
      let rests := (first :: others).map fun items => ofItems (items.drop shared.length)
      ofItems (shared ++ [choose (rests.flatMap branches)])

/-- From `least` to `most` copies of a tree.  A tree that matches only the empty text is not
copied, no copies at all are the empty text, and one copy is the tree itself. -/
def repeated (body : Node) (least : Nat) (most : Option Nat) (greedy : Bool) : Node :=
  let once := body.matchesOnlyEmpty
  let least := if once then min least 1 else least
  let most := if once then some (min (most.getD 1) 1) else most
  if most == some 0 then empty
  else if least == 1 && most == some 1 then body
  else copies body least most greedy

end Node

end SourceRetrieval.Pattern
