/-
Binary floating-point numbers as exact numbers.

* `Format.decode` reads the bits of a number: a sign, and a mantissa times a
  power of two;
* `Format.encode` gives the bits of the number nearest to a fraction, of two
  equally near ones the even one;
* `narrow` is the number of 32 bits nearest to one of 64.

Design notes: the arithmetic is on natural numbers, so nothing is rounded but
at the one place that says so (`roundDiv`).
-/

namespace SourceRetrieval.Number

/-- A format of floating-point numbers. -/
structure Format where
  fractionBits : Nat
  exponentBits : Nat
  deriving DecidableEq, Repr

/-- Numbers of 64 bits. -/
def double : Format := ⟨52, 11⟩

/-- Numbers of 32 bits. -/
def single : Format := ⟨23, 8⟩

/-- What the bits of a number stand for. -/
inductive Value where
  | nan
  | infinite (negative : Bool)
  /-- The number `mantissa * 2 ^ exponent`. -/
  | finite (negative : Bool) (mantissa : Nat) (exponent : Int)
  deriving DecidableEq, Repr

namespace Format

/-- The exponent of the least positive number. -/
def minExponent (format : Format) : Int :=
  2 - (Nat.pow 2 (format.exponentBits - 1) : Nat) - format.fractionBits

/-- The bits of positive infinity. -/
def infinityBits (format : Format) : Nat :=
  (Nat.pow 2 format.exponentBits - 1) * Nat.pow 2 format.fractionBits

/-- The bit of the sign. -/
def signBit (format : Format) : Nat := Nat.pow 2 (format.fractionBits + format.exponentBits)

/-- What some bits stand for. -/
def decode (format : Format) (bits : Nat) : Value :=
  let negative := bits / format.signBit % 2 == 1
  let magnitude := bits % format.signBit
  let fraction := magnitude % Nat.pow 2 format.fractionBits
  let place := magnitude / Nat.pow 2 format.fractionBits
  if format.infinityBits < magnitude then .nan
  else if format.infinityBits = magnitude then .infinite negative
  else if place = 0 then .finite negative fraction format.minExponent
  else .finite negative (fraction + Nat.pow 2 format.fractionBits) (format.minExponent + place - 1)

end Format

/-- The integer nearest to a fraction, of two equally near ones the even one. -/
def roundDiv (num den : Nat) : Nat :=
  let q := num / den
  let twice := 2 * (num % den)
  if twice < den || (twice == den && q % 2 == 0) then q else q + 1

/-- The fraction `num / den * 2 ^ exponent` as a numerator and a denominator. -/
def scale (num den : Nat) (exponent : Int) : Nat × Nat :=
  if 0 ≤ exponent then (num * Nat.pow 2 exponent.toNat, den)
  else (num, den * Nat.pow 2 (-exponent).toNat)

namespace Format

/-- The exponent at which the mantissa of `num / den` fills the format. -/
def exponentFor (format : Format) (num den : Nat) : Int :=
  let guess : Int := (num.log2 : Int) - den.log2 - format.fractionBits
  let (n, d) := scale num den (-guess)
  let exponent := if n / d < Nat.pow 2 format.fractionBits then guess - 1 else guess
  max exponent format.minExponent

/-- The bits of the number nearest to `num / den`. -/
def encode (format : Format) (num den : Nat) : Nat :=
  if num = 0 then 0
  else
    let exponent := format.exponentFor num den
    let (n, d) := scale num den (-exponent)
    let bits := (exponent - format.minExponent).toNat * Nat.pow 2 format.fractionBits + roundDiv n d
    min bits format.infinityBits

/-- The bits of a number with a sign. -/
def withSign (format : Format) (negative : Bool) (magnitude : Nat) : Nat :=
  if negative then format.signBit + magnitude else magnitude

/-- The bits of the number nearest to a value. -/
def nearest (format : Format) : Value → Nat
  | .nan => format.infinityBits + Nat.pow 2 (format.fractionBits - 1)
  | .infinite negative => format.withSign negative format.infinityBits
  | .finite negative mantissa exponent =>
    let (num, den) := scale mantissa 1 exponent
    format.withSign negative (format.encode num den)

end Format

/-- What a number of 64 bits stands for. -/
def ofFloat (x : Float) : Value := double.decode x.toBits.toNat

/-- What a number of 32 bits stands for. -/
def ofFloat32 (x : Float32) : Value := single.decode x.toBits.toNat

/-- The number of 32 bits nearest to one of 64. -/
def narrow (x : Float) : Float32 := Float32.ofBits (single.nearest (ofFloat x)).toUInt32

end SourceRetrieval.Number
