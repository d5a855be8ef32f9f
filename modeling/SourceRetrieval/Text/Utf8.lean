/-
Text from bytes that claim to be UTF-8.

* `decode?` refuses bytes that are not;
* `decodeLossy` puts a replacement character in the place of each malformed part.

Design notes: a malformed part is the longest beginning of a character that the
bytes still hold, or a single byte that begins none.
-/

namespace SourceRetrieval.Text

/-- The text of bytes, if they are UTF-8. -/
def decode? (bytes : ByteArray) : Option String := String.fromUTF8? bytes

/-- The replacement character. -/
def replacement : Char := '\uFFFD'

/-- The bits that a continuing byte adds. -/
def continuationBits (b : UInt8) : Nat := b.toNat % 64

/-- How many continuing bytes a lead byte asks for, and the bounds of the first of them. -/
def continuations? (lead : UInt8) : Option (Nat × UInt8 × UInt8) :=
  if 0xC2 ≤ lead && lead ≤ 0xDF then some (1, 0x80, 0xBF)
  else if lead == 0xE0 then some (2, 0xA0, 0xBF)
  else if lead == 0xED then some (2, 0x80, 0x9F)
  else if 0xE1 ≤ lead && lead ≤ 0xEF then some (2, 0x80, 0xBF)
  else if lead == 0xF0 then some (3, 0x90, 0xBF)
  else if 0xF1 ≤ lead && lead ≤ 0xF3 then some (3, 0x80, 0xBF)
  else if lead == 0xF4 then some (3, 0x80, 0x8F)
  else none

/-- The bits that a lead byte of a character with `count` continuing bytes holds. -/
def leadBits (count : Nat) (lead : UInt8) : Nat := lead.toNat % Nat.pow 2 (6 - count)

/-- Take up to `count` continuing bytes, the first of which lies between bounds: the bits
they make up, how many there are, and the rest. -/
def takeContinuations (low high : UInt8) : Nat → Nat → Nat → List UInt8 → Nat × Nat × List UInt8
  | 0, bits, taken, bytes => (bits, taken, bytes)
  | _ + 1, bits, taken, [] => (bits, taken, [])
  | count + 1, bits, taken, b :: bytes =>
    if low ≤ b && b ≤ high then
      takeContinuations 0x80 0xBF count (64 * bits + continuationBits b) (taken + 1) bytes
    else (bits, taken, b :: bytes)

/-- The first character of some bytes after the byte `lead`, and the rest. -/
def decodeOne (lead : UInt8) (bytes : List UInt8) : Char × List UInt8 :=
  if lead < 0x80 then (Char.ofNat lead.toNat, bytes)
  else match continuations? lead with
    | none => (replacement, bytes)
    | some (count, low, high) =>
      let (bits, taken, rest) := takeContinuations low high count (leadBits count lead) 0 bytes
      (if taken = count then Char.ofNat bits else replacement, rest)

/-- The characters of some bytes; `fuel` bounds their number. -/
def decodeLossyFrom : Nat → List UInt8 → List Char
  | fuel + 1, lead :: bytes =>
    let (c, rest) := decodeOne lead bytes
    c :: decodeLossyFrom fuel rest
  | _, _ => []

/-- The text of bytes, with a replacement character for each malformed part. -/
def decodeLossy (bytes : ByteArray) : String :=
  match decode? bytes with
  | some text => text
  | none => String.ofList (decodeLossyFrom bytes.size bytes.toList)

end SourceRetrieval.Text
