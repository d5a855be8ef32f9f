/-
Glob patterns: what they are and what they match.

* `Token` is one part of a pattern, `Glob` a pattern with its treatment of slashes;
* `rests` says what may be left of a text after a pattern has matched the
  beginning of it, and `Glob.isMatch` whether nothing may be left;
* `Glob.needsName` holds of the patterns that match only paths which end in a name.

Design notes: patterns are matched against bytes, so a wildcard for one
character stands for one byte.  The texts that may be left are suffixes of one
text, told apart by their lengths, so there are never more of them than bytes.
A path that ends in two dots leads upward and has no name at its end.
-/
import SourceRetrieval.Listing

namespace SourceRetrieval.Glob

/-- One part of a pattern. -/
inductive Token where
  /-- A byte that stands for itself. -/
  | byte (value : UInt8)
  /-- Any one byte. -/
  | any
  /-- Any bytes. -/
  | star
  /-- Any directories at the beginning. -/
  | leadingDirs
  /-- Anything in a directory. -/
  | trailingDirs
  /-- Any directories in the middle, or just a slash. -/
  | innerDirs
  /-- One byte of some ranges, or of none of them. -/
  | set (negated : Bool) (ranges : List (UInt8 × UInt8))
  /-- One of several patterns. -/
  | choice (branches : List (List Token))
  deriving Inhabited

/-- The byte of a slash. -/
def slash : UInt8 := 47

/-- The texts left after some leading bytes that satisfy `p`. -/
def spans (p : UInt8 → Bool) : List UInt8 → List (List UInt8)
  | [] => [[]]
  | b :: bytes => (b :: bytes) :: if p b then spans p bytes else []

/-- The texts left after each slash. -/
def afterSlashes : List UInt8 → List (List UInt8)
  | [] => []
  | b :: bytes => if b == slash then bytes :: afterSlashes bytes else afterSlashes bytes

/-- The text left after one byte that satisfies `p`. -/
def afterByte (p : UInt8 → Bool) : List UInt8 → List (List UInt8)
  | b :: bytes => if p b then [bytes] else []
  | [] => []

/-- Whether a wildcard may stand for a byte. -/
def isWild (keepSlashes : Bool) (b : UInt8) : Bool := !(keepSlashes && b == slash)

mutual

/-- Whether a part stands for nothing at all, as braces without content do. -/
def Token.isVoid : Token → Bool
  | .choice branches => areVoid branches
  | _ => false

/-- Whether all parts stand for nothing. -/
def isVoid : List Token → Bool
  | [] => true
  | token :: tokens => token.isVoid && isVoid tokens

/-- Whether all branches stand for nothing. -/
def areVoid : List (List Token) → Bool
  | [] => true
  | branch :: branches => isVoid branch && areVoid branches

end

mutual

/-- What may be left of a text after a part has matched the beginning of it.  Where
`keepSlashes` holds, wildcards do not stand for slashes. -/
def Token.rests (keepSlashes : Bool) (token : Token) (text : List UInt8) : List (List UInt8) :=
  match token with
  | .byte value => afterByte (· == value) text
  | .any => afterByte (isWild keepSlashes) text
  | .star => spans (isWild keepSlashes) text
  | .leadingDirs => text :: afterSlashes text
  | .trailingDirs => (afterByte (· == slash) text).flatMap (spans fun _ => true)
  | .innerDirs => (afterByte (· == slash) text).flatMap fun rest => rest :: afterSlashes rest
  | .set negated ranges =>
    afterByte (fun b => (ranges.any fun (low, high) => low ≤ b && b ≤ high) != negated) text
  | .choice branches => if areVoid branches then [text] else anyRests keepSlashes branches text

/-- What may be left of one of several texts after a pattern has matched the beginning
of it. -/
def rests (keepSlashes : Bool) (tokens : List Token) (texts : List (List UInt8)) :
    List (List UInt8) :=
  match tokens with
  | [] => texts
  | token :: tokens =>
    -- All are ends of one text, so those of the same length are the same.
    rests keepSlashes tokens (distinctOn List.length (texts.flatMap (token.rests keepSlashes)))

/-- What may be left of a text after one of several patterns that stand for something. -/
def anyRests (keepSlashes : Bool) (branches : List (List Token)) (text : List UInt8) :
    List (List UInt8) :=
  match branches with
  | [] => []
  | branch :: branches =>
    -- Beside a branch that stands for something an empty one does not count.
    (if isVoid branch then [] else rests keepSlashes branch [text])
      ++ anyRests keepSlashes branches text

end

end Glob

/-- A glob pattern. -/
structure Glob where
  tokens : List Glob.Token
  /-- Whether wildcards stand for no slash. -/
  keepSlashes : Bool
  deriving Inhabited

namespace Glob

/-- The byte of a dot. -/
def dot : UInt8 := 46

/-- The byte that a part stands for, if it stands for one. -/
def Token.byte? : Token → Option UInt8
  | .byte value => some value
  | _ => none

/-- Whether all parts are bytes that stand for themselves. -/
def areBytes (tokens : List Token) : Bool := tokens.all fun token => token.byte?.isSome

/-- Whether a pattern that ends in a dot matches only paths which end in a name: it is a
name in any directory, any name that ends in a dot, or no mere ending of a text. -/
def needsName (glob : Glob) : Bool :=
  let (inAnyDirectory, tokens) := match glob.tokens with
    | .leadingDirs :: tokens => (true, tokens)
    | tokens => (false, tokens)
  if areBytes tokens then inAnyDirectory && !tokens.any (·.byte? == some slash)
  else match tokens with
    | .star :: ending => glob.keepSlashes || ending.length == 1 || !areBytes ending
    | _ => true

/-- Whether the last component of a path is two dots. -/
def leadsUpward (path : List UInt8) : Bool := path.reverse.takeWhile (· != slash) == [dot, dot]

/-- Whether a pattern matches a whole text. -/
def isMatch (glob : Glob) (text : List UInt8) : Bool :=
  match glob.tokens with
  | [.leadingDirs] => true
  | tokens =>
    let nameless := (tokens.getLast?.bind Token.byte?) == some dot && leadsUpward text
    !(nameless && glob.needsName) && (rests glob.keepSlashes tokens [text]).any List.isEmpty

end Glob

end SourceRetrieval
