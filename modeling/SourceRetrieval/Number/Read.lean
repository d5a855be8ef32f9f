/-
Numbers read from text.

* `float?` and `float32?` read the decimal text of a number of 64 or 32 bits,
  rounding once and correctly;
* `unsigned?` and `integer?` read whole numbers of a limited range.

Design notes: an exponent beyond every format is recognised before its power
of ten is formed.
-/
import SourceRetrieval.Number.Binary

namespace SourceRetrieval.Number

/-- The number that decimal digits stand for. -/
def ofDigits (digits : List Char) : Nat :=
  digits.foldl (fun n c => 10 * n + (c.toNat - '0'.toNat)) 0

/-- The number of a non-empty text of digits. -/
def digits? (cs : List Char) : Option Nat :=
  if cs.isEmpty || !cs.all Char.isDigit then none else some (ofDigits cs)

/-- A sign, if there is one, and the rest: whether it is a minus. -/
def takeSign : List Char → Bool × List Char
  | '-' :: cs => (true, cs)
  | '+' :: cs => (false, cs)
  | cs => (false, cs)

/-- A natural number of at most `bits` bits. -/
def unsigned? (bits : Nat) (text : String) : Option Nat := do
  let digits := match text.toList with
    | '+' :: cs => cs
    | cs => cs
  let n ← digits? digits
  if n < Nat.pow 2 bits then some n else none

/-- An integer of 64 bits. -/
def integer? (text : String) : Option Int := do
  let (negative, digits) := takeSign text.toList
  let n ← digits? digits
  if negative then if n ≤ Nat.pow 2 63 then some (-(n : Int)) else none
  else if n < Nat.pow 2 63 then some n else none

/-- The bits of the number nearest to `n * 10 ^ place`. -/
def bitsOfDecimal (format : Format) (n : Nat) (place : Int) : Nat :=
  let size : Int := (toString n).length + place
  if n = 0 || size < -400 then 0
  else if 400 < size then format.infinityBits
  else if 0 ≤ place then format.encode (n * Nat.pow 10 place.toNat) 1
  else format.encode n (Nat.pow 10 (-place).toNat)

/-- A decimal number: digits with at most one point, and possibly an exponent. -/
def decimal? (cs : List Char) : Option (Nat × Int) := do
  let isExponent := fun c => c == 'e' || c == 'E'
  let mantissa := cs.takeWhile (!isExponent ·)
  let whole := mantissa.takeWhile (· != '.')
  let fraction := (mantissa.drop whole.length).tail
  let n ← digits? (whole ++ fraction)
  let place ← match cs.drop mantissa.length with
    | [] => some 0
    | _ :: rest => do
      let (negative, digits) := takeSign rest
      let e ← digits? digits
      some (if negative then -(e : Int) else e)
  some (n, place - fraction.length)

/-- The bits of a number read from text: a decimal number, an infinity or no number. -/
def bits? (format : Format) (text : String) : Option Nat := do
  let (negative, cs) := takeSign text.toList
  let word := String.ofList (cs.map Char.toLower)
  let magnitude ←
    if word == "inf" || word == "infinity" then some format.infinityBits
    else if word == "nan" then some (format.infinityBits + Nat.pow 2 (format.fractionBits - 1))
    else (decimal? cs).map fun (n, place) => bitsOfDecimal format n place
  some ((if negative then format.signBit else 0) + magnitude)

/-- A number of 64 bits. -/
def float? (text : String) : Option Float :=
  (bits? double text).map fun bits => Float.ofBits bits.toUInt64

/-- A number of 32 bits. -/
def float32? (text : String) : Option Float32 :=
  (bits? single text).map fun bits => Float32.ofBits bits.toUInt32

end SourceRetrieval.Number
