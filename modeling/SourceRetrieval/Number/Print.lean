/-
Numbers as decimal text.

* `shortest` is the shortest text that reads back to the same number of the
  same width, never with an exponent;
* `fixed` has a fixed number of decimal places;
* `scientific` is the shortest text too, with an exponent where that is usual in
  data formats.

Design notes: every number between half the way to the neighbour below and
half the way to the one above reads back to the number itself.  `digits` makes
one decimal digit after another until the digits so far, or the digits so far
plus one in the last place, lie between these bounds.
-/
import SourceRetrieval.Number.Binary

namespace SourceRetrieval.Number

/-- A positive number with its bounds, all over one denominator. -/
structure Bounded where
  num : Nat
  /-- How far the lower and the upper bound are away. -/
  below : Nat
  above : Nat
  den : Nat
  /-- Whether the bounds themselves read back to the number. -/
  inclusive : Bool

namespace Bounded

/-- Whether `a` is before `b`, or at it where the bounds count. -/
def before (x : Bounded) (a b : Nat) : Bool := if x.inclusive then a ≤ b else a < b

/-- Ten times the number over the same denominator. -/
def tenfold (x : Bounded) : Bounded :=
  { x with num := 10 * x.num, below := 10 * x.below, above := 10 * x.above }

/-- Whether the upper bound reaches one. -/
def reachesOne (x : Bounded) : Bool := x.before x.den (x.num + x.above)

end Bounded

/-- The bounds of the number `mantissa * 2 ^ exponent` of a format. -/
def bounded (format : Format) (mantissa : Nat) (exponent : Int) : Bounded :=
  let (unit, den) := scale 1 4 exponent
  let atPower := mantissa = Nat.pow 2 format.fractionBits
  { num := 4 * mantissa * unit
    below := if atPower then unit else 2 * unit
    above := 2 * unit
    den := den
    inclusive := mantissa % 2 = 0 }

/-- The decimal place of the first digit of a number of at least one: a number and its
place make up the given number and place. -/
def shrink : Nat → Bounded → Int → Bounded × Int
  | 0, x, place => (x, place)
  | fuel + 1, x, place =>
    if x.reachesOne then shrink fuel { x with den := 10 * x.den } (place + 1) else (x, place)

/-- As `shrink`, for a number below one. -/
def grow : Nat → Bounded → Int → Bounded × Int
  | 0, x, place => (x, place)
  | fuel + 1, x, place =>
    if x.tenfold.reachesOne then (x, place) else grow fuel x.tenfold (place - 1)

/-- Add decimal digits to `sofar` until they are within the bounds; `place` is the decimal
place of the last one. -/
def digits : Nat → Bounded → (sofar : Nat) → (place : Int) → Nat × Int
  | 0, _, sofar, place => (sofar, place)
  | fuel + 1, x, sofar, place =>
    let x := x.tenfold
    let sofar := 10 * sofar + x.num / x.den
    let x := { x with num := x.num % x.den }
    let low := x.before x.num x.below
    let high := x.reachesOne
    if high && (!low || x.den ≤ 2 * x.num) then (sofar + 1, place - 1)
    else if low then (sofar, place - 1)
    else digits fuel x sofar (place - 1)

/-- The shortest decimal number `digits * 10 ^ place` that reads back to
`mantissa * 2 ^ exponent`. -/
def shortestDecimal (format : Format) (mantissa : Nat) (exponent : Int) : Nat × Int :=
  if mantissa = 0 then (0, 0)
  else
    let (x, place) := shrink 400 (bounded format mantissa exponent) 0
    let (x, place) := if place = 0 then grow 400 x 0 else (x, place)
    digits 20 x 0 place

/-- A natural number with at least `width` digits. -/
def padded (width n : Nat) : String :=
  let text := toString n
  String.ofList (List.replicate (width - text.length) '0') ++ text

/-- The number `n / 10 ^ places` with that many decimal places. -/
def withPlaces (places n : Nat) : String :=
  if places = 0 then toString n
  else toString (n / Nat.pow 10 places) ++ "." ++ padded places (n % Nat.pow 10 places)

/-- The number `n * 10 ^ place`, without an exponent. -/
def positional (n : Nat) (place : Int) : String :=
  if 0 ≤ place then toString (n * Nat.pow 10 place.toNat) else withPlaces (-place).toNat n

/-- A text with the sign in front. -/
def signed (negative : Bool) (text : String) : String := if negative then "-" ++ text else text

/-- The text of a number, `finite` being the text of its magnitude. -/
def Value.text (finite : Nat → Int → String) : Value → String
  | nan => "NaN"
  | infinite negative => signed negative "inf"
  | .finite negative mantissa exponent => signed negative (finite mantissa exponent)

/-- The shortest text of a magnitude. -/
def shortestMagnitude (format : Format) (mantissa : Nat) (exponent : Int) : String :=
  let (n, place) := shortestDecimal format mantissa exponent
  positional n place

/-- The shortest text that reads back to a number of 64 bits. -/
def shortest (x : Float) : String := (ofFloat x).text (shortestMagnitude double)

/-- The shortest text that reads back to a number of 32 bits. -/
def shortest32 (x : Float32) : String := (ofFloat32 x).text (shortestMagnitude single)

/-- A magnitude with a fixed number of decimal places. -/
def fixedMagnitude (places mantissa : Nat) (exponent : Int) : String :=
  let (num, den) := scale (mantissa * Nat.pow 10 places) 1 exponent
  withPlaces places (roundDiv num den)

/-- A number with a fixed number of decimal places. -/
def fixed (places : Nat) (x : Float) : String := (ofFloat x).text (fixedMagnitude places)

/-- The shortest text of a magnitude as data formats have it: always with a point, and with
an exponent if the point is far from the digits. -/
def scientificMagnitude (mantissa : Nat) (exponent : Int) : String :=
  let (n, place) := shortestDecimal double mantissa exponent
  let length := (toString n).length
  let point := length + place
  if 0 ≤ place && point ≤ 16 then positional n place ++ ".0"
  else if -5 < point && point ≤ 16 then positional n place
  else
    let lead := if length = 1 then toString n else withPlaces (length - 1) n
    lead ++ "e" ++ toString (point - 1)

/-- The text of a number in data formats, which have none for what is not finite. -/
def scientific? (x : Float) : Option String :=
  match ofFloat x with
  | .finite negative mantissa exponent =>
    some (signed negative (scientificMagnitude mantissa exponent))
  | _ => none

end SourceRetrieval.Number
