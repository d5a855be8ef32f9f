/-
Reading TOML.

* `Toml.read?` reads a document, or nothing if it is malformed;
* `readValue` reads a value, `readString`, `readNumber` and `readDateTime` its kinds.

Design notes: a reader takes the text from the front and fails without a reason,
since no caller tells one malformed text from another.  Nested values are read
with a fuel that the length of the text bounds.  Values may nest, and keys may have parts,
up to a limit.
-/
import SourceRetrieval.Toml.Basic
import SourceRetrieval.Number.Read
import SourceRetrieval.Text.Blank

namespace SourceRetrieval.Toml

/-- A reader of the front of a text. -/
abbrev Reader := StateT (List Char) Option

namespace Reader

/-- The next character, which stays. -/
def peek : Reader (Option Char) := return (← get).head?

/-- Take a given text. -/
def expect (text : String) : Reader Unit := do
  let cs ← get
  guard (text.toList.isPrefixOf cs)
  set (cs.drop text.length)

/-- Take a given text if it comes next; whether it did. -/
def accept (text : String) : Reader Bool := do
  let cs ← get
  let comes := text.toList.isPrefixOf cs
  if comes then set (cs.drop text.length)
  return comes

/-- Take the characters that satisfy `p`. -/
def takeWhile (p : Char → Bool) : Reader (List Char) := do
  let cs ← get
  let taken := cs.takeWhile p
  set (cs.drop taken.length)
  return taken

/-- Skip blanks within a line. -/
def skipBlanks : Reader Unit := discard (takeWhile fun c => c == ' ' || c == '\t')

/-- A character that a comment or a literal string may hold. -/
def isPlain (c : Char) : Bool := c == '\t' || (0x20 ≤ c.toNat && c.toNat != 0x7F)

/-- Take a line end, if one comes next; whether it did. -/
def acceptLineEnd : Reader Bool := do
  if ← accept "\n" then return true
  accept "\r\n"

/-- Skip a comment, if one comes next. -/
def skipComment : Reader Unit := do
  if ← accept "#" then discard (takeWhile isPlain)

/-- The text after blanks, line ends and comments, or after what is left of a comment. -/
def afterSpace (inComment : Bool) : List Char → List Char
  | [] => []
  | '\n' :: cs => afterSpace false cs
  | '\r' :: '\n' :: cs => afterSpace false cs
  | c :: cs =>
    if inComment then if isPlain c then afterSpace true cs else c :: cs
    else if c == ' ' || c == '\t' then afterSpace false cs
    else if c == '#' then afterSpace true cs
    else c :: cs

/-- Skip blanks, line ends and comments. -/
def skipSpace : Reader Unit := modify (afterSpace false)

/-- Take what may follow on a line, and its end or that of the text. -/
def finishLine : Reader Unit := do
  skipBlanks
  skipComment
  unless (← get).isEmpty do
    guard (← acceptLineEnd)

end Reader

open Reader

/-- A hexadecimal digit. -/
def isHexDigit (c : Char) : Bool :=
  c.isDigit || ('a' ≤ c && c ≤ 'f') || ('A' ≤ c && c ≤ 'F')

/-- The value of a digit of a base of at most sixteen. -/
def digitValue (c : Char) : Nat :=
  if c.isDigit then c.toNat - '0'.toNat else c.toLower.toNat - 'a'.toNat + 10

/-- The number that digits of a base stand for. -/
def numberOf (base : Nat) (digits : List Char) : Nat :=
  digits.foldl (fun n c => base * n + digitValue c) 0

/-- The character that follows a backslash stands for; `width` hexadecimal digits follow
for a code point. -/
def readEscape : Reader Char := do
  let c :: rest ← get | failure
  set rest
  match c with
  | 'b' => return '\x08'
  | 't' => return '\t'
  | 'n' => return '\n'
  | 'f' => return '\x0c'
  | 'r' => return '\r'
  | '"' => return '"'
  | '\\' => return '\\'
  | 'u' => codePoint 4
  | 'U' => codePoint 8
  | _ => failure
where
  /-- The character of a code point of a fixed number of digits. -/
  codePoint (width : Nat) : Reader Char := do
    let cs ← get
    let digits := cs.take width
    guard (digits.length = width && digits.all isHexDigit)
    set (cs.drop width)
    let n := numberOf 16 digits
    if n.isValidChar then return Char.ofNat n else failure

/-- The rest of a string in double quotes on one line. -/
def readBasic : Nat → List Char → Reader String
  | 0, _ => failure
  | fuel + 1, taken => do
    let plain ← takeWhile fun c => isPlain c && c != '"' && c != '\\'
    let taken := plain.reverse ++ taken
    if ← accept "\"" then return String.ofList taken.reverse
    expect "\\"
    readBasic fuel ((← readEscape) :: taken)

/-- The rest of a string in single quotes on one line. -/
def readLiteral : Reader String := do
  let plain ← takeWhile fun c => isPlain c && c != '\''
  expect "'"
  return String.ofList plain

/-- The quotes at the end of a string of several lines, when three have just been taken: up
to two more belong to the string. -/
def trailingQuotes (quote : String) : Reader (List Char) := do
  if ← accept quote then
    if ← accept quote then return quote.toList ++ quote.toList
    return quote.toList
  return []

/-- The rest of a string of several lines in triple quotes. -/
def readLines (quote : String) (escapes : Bool) : Nat → List Char → Reader String
  | 0, _ => failure
  | fuel + 1, taken => do
    if ← accept (quote ++ quote ++ quote) then
      return String.ofList ((← trailingQuotes quote) ++ taken).reverse
    if ← acceptLineEnd then readLines quote escapes fuel ('\n' :: taken)
    else if escapes && (← accept "\\") then
      let cs ← get
      let rest := cs.dropWhile fun c => c == ' ' || c == '\t'
      if rest.head? == some '\n' || ['\r', '\n'].isPrefixOf rest then
        set rest
        skipLines rest.length
        readLines quote escapes fuel taken
      else readLines quote escapes fuel ((← readEscape) :: taken)
    else
      let c :: rest ← get | failure
      guard (isPlain c)
      set rest
      readLines quote escapes fuel (c :: taken)
where
  /-- Skip blanks and at most `fuel` line ends. -/
  skipLines : Nat → Reader Unit
    | 0 => return
    | fuel + 1 => do
      skipBlanks
      if ← acceptLineEnd then skipLines fuel

/-- A string of several lines; a line end right after the quotes does not count. -/
def readTriple (quote : String) (escapes : Bool) : Reader String := do
  discard acceptLineEnd
  readLines quote escapes ((← get).length + 1) []

/-- A string. -/
def readString : Reader String := do
  if ← accept "\"\"\"" then readTriple "\"" true
  else if ← accept "'''" then readTriple "'" false
  else if ← accept "\"" then readBasic ((← get).length + 1) []
  else
    expect "'"
    readLiteral

/-- One part of a key. -/
def readKeyPart : Reader String := do
  match ← peek with
  | some '"' =>
    expect "\""
    readBasic ((← get).length + 1) []
  | some '\'' =>
    expect "'"
    readLiteral
  | _ =>
    let bare ← takeWhile fun c => c.isAlphanum || c == '_' || c == '-'
    guard !bare.isEmpty
    return String.ofList bare

/-- How deep values may nest, and how many parts a key may have. -/
def depthLimit : Nat := 79

/-- The parts of a dotted key: those before the last, and the last. -/
def readKey : Reader (List String × String) := do
  skipBlanks
  let first ← readKeyPart
  skipBlanks
  more (depthLimit - 1) [] first
where
  /-- Read at most `room` parts after `last`, which follows those in `before`, last one
  first. -/
  more (room : Nat) (before : List String) (last : String) : Reader (List String × String) := do
    if ← accept "." then
      match room with
      | 0 => failure
      | room + 1 =>
        skipBlanks
        let next ← readKeyPart
        skipBlanks
        more room (last :: before) next
    else return (before.reverse, last)

/-- Digits that single underscores may part, without these. -/
def plainDigits? (isDigit : Char → Bool) (cs : List Char) : Option (List Char) :=
  let pieces := Text.splitBy (· == '_') cs
  if pieces.all fun piece => !piece.isEmpty && piece.all isDigit then some pieces.flatten else none

/-- Decimal digits without a leading zero. -/
def wholeDigits? (cs : List Char) : Option (List Char) := do
  let digits ← plainDigits? Char.isDigit cs
  if digits.head? == some '0' && 1 < cs.length then none else some digits

/-- An integer of 64 bits. -/
def ranged? (n : Int) : Option Toml :=
  if -(Nat.pow 2 63 : Nat) ≤ n && n < (Nat.pow 2 63 : Nat) then some (integer n) else none

/-- A decimal number of the given sign that has a point or an exponent. -/
def float? (negative : Bool) (cs : List Char) : Option Toml := do
  let isExponent := fun c => c == 'e' || c == 'E'
  let mantissa := cs.takeWhile (!isExponent ·)
  let whole := mantissa.takeWhile (· != '.')
  let digits ← wholeDigits? whole
  let fraction ← match mantissa.drop whole.length with
    | [] => some []
    | _ :: fraction => (plainDigits? Char.isDigit fraction).map ('.' :: ·)
  let exponent ← match cs.drop mantissa.length with
    | [] => some []
    | _ :: rest =>
      let (down, places) := Number.takeSign rest
      (plainDigits? Char.isDigit places).map fun places => 'e' :: (if down then ['-'] else []) ++ places
  if fraction.isEmpty && exponent.isEmpty then none
  else
    let sign := if negative then ['-'] else []
    let value ← Number.float? (String.ofList (sign ++ digits ++ fraction ++ exponent))
    if value.isInf && !negative then none else some (float value)

/-- A number. -/
def number? (cs : List Char) : Option Toml :=
  let based := fun (base : Nat) (isDigit : Char → Bool) (digits : List Char) => do
    ranged? (numberOf base (← plainDigits? isDigit digits))
  match cs with
  | '0' :: 'x' :: digits => based 16 isHexDigit digits
  | '0' :: 'o' :: digits => based 8 (fun c => '0' ≤ c && c ≤ '7') digits
  | '0' :: 'b' :: digits => based 2 (fun c => c == '0' || c == '1') digits
  | cs =>
    let (negative, magnitude) := Number.takeSign cs
    if magnitude == ['i', 'n', 'f'] || magnitude == ['n', 'a', 'n'] then
      (Number.float? (String.ofList cs)).map float
    else match wholeDigits? magnitude with
      | some digits =>
        let n : Int := Number.ofDigits digits
        ranged? (if negative then -n else n)
      | none => float? negative magnitude

/-- A number of exactly `width` digits within bounds, and the rest. -/
def field? (width low high : Nat) (cs : List Char) : Option (Nat × List Char) := do
  let digits := cs.take width
  guard (digits.length = width && digits.all Char.isDigit)
  let n := Number.ofDigits digits
  guard (low ≤ n && n ≤ high)
  return (n, cs.drop width)

/-- The text after a given character. -/
def after? (c : Char) : List Char → Option (List Char)
  | d :: cs => if c = d then some cs else none
  | [] => none

/-- The last day of a month. -/
def lastDay (year month : Nat) : Nat :=
  let leap := year % 4 = 0 && (year % 100 != 0 || year % 400 = 0)
  if month = 2 then if leap then 29 else 28
  else if [4, 6, 9, 11].contains month then 30
  else 31

/-- The text after a date. -/
def afterDate? (cs : List Char) : Option (List Char) := do
  let (year, cs) ← field? 4 0 9999 cs
  let (month, cs) ← field? 2 1 12 (← after? '-' cs)
  let (_, cs) ← field? 2 1 (lastDay year month) (← after? '-' cs)
  return cs

/-- The text after a time of day. -/
def afterTime? (cs : List Char) : Option (List Char) := do
  let (_, cs) ← field? 2 0 23 cs
  let (_, cs) ← field? 2 0 59 (← after? ':' cs)
  let (_, cs) ← field? 2 0 60 (← after? ':' cs)
  match cs with
  | '.' :: rest => if rest.head?.any Char.isDigit then some (rest.dropWhile Char.isDigit) else none
  | cs => some cs

/-- Whether a text is empty or the distance of a time from universal time. -/
def isOffset (cs : List Char) : Bool :=
  match cs with
  | [] | ['Z'] | ['z'] => true
  | c :: rest =>
    (c == '+' || c == '-') && (do
      let (_, rest) ← field? 2 0 23 rest
      let (_, rest) ← field? 2 0 59 (← after? ':' rest)
      guard rest.isEmpty).isSome

/-- Whether a text is a date, a time of day, or both. -/
def isDateTime (cs : List Char) : Bool :=
  match afterDate? cs with
  | some [] => true
  | some (c :: rest) =>
    (c == 'T' || c == 't' || c == ' ') && (afterTime? rest).any isOffset
  | none => afterTime? cs == some []

/-- A character of a number, a date or a word. -/
def isTokenPart (c : Char) : Bool := c.isAlphanum || "+-_.:".contains c

/-- Take a number, a date or a word; a time after a date and one blank belongs to it. -/
def readToken : Reader (List Char) := do
  let token ← takeWhile isTokenPart
  match ← get with
  | ' ' :: a :: b :: ':' :: _ =>
    if (afterDate? token).any List.isEmpty && a.isDigit && b.isDigit then
      expect " "
      return token ++ ' ' :: (← takeWhile isTokenPart)
    else return token
  | _ => return token

/-- A value that is neither a string nor has parts. -/
def readScalar : Reader Toml := do
  let token ← readToken
  if token == "true".toList then return boolean true
  else if token == "false".toList then return boolean false
  else if isDateTime token then return dateTime
  else match number? token with
    | some value => return value
    | none => failure

mutual

/-- A value; `fuel` bounds how many parts it has, and `room` how deep it nests. -/
def readValue (fuel room : Nat) : Reader Toml :=
  match fuel with
  | 0 => failure
  | fuel + 1 => do
    match ← peek with
    | some '"' | some '\'' => return string (← readString)
    | some '[' =>
      guard (0 < room)
      expect "["
      return array (← readItems fuel (room - 1) [])
    | some '\x7b' =>
      guard (0 < room)
      expect "\x7b"
      skipBlanks
      if ← accept "\x7d" then return table .written true []
      readPairs fuel (room - 1) (table .written false [])
    | _ => readScalar

/-- The rest of an array; `items` holds the values so far, last one first. -/
def readItems (fuel room : Nat) (items : List Toml) : Reader (List Toml) :=
  match fuel with
  | 0 => failure
  | fuel + 1 => do
    skipSpace
    if ← accept "]" then return items.reverse
    let value ← readValue fuel room
    skipSpace
    if ← accept "," then readItems fuel room (value :: items)
    else
      expect "]"
      return (value :: items).reverse

/-- The pairs of a table between braces. -/
def readPairs (fuel room : Nat) (sofar : Toml) : Reader Toml :=
  match fuel with
  | 0 => failure
  | fuel + 1 => do
    let (path, last) ← readKey
    expect "="
    skipBlanks
    let value ← readValue fuel room
    skipBlanks
    let some sofar := insertPair path last value sofar | failure
    if ← accept "," then readPairs fuel room sofar
    else
      expect "\x7d"
      match sofar with
      | table origin _ entries => return table origin true entries
      | sofar => return sofar

end

/-- The parts of a header, `closing` being what ends it. -/
def readHeader (closing : String) : Reader (List String × String) := do
  let key ← readKey
  expect closing
  finishLine
  return key

/-- The lines of a document; `header` leads to the table that pairs go to. -/
def readDocument : Nat → (header : List String) → Toml → Reader Toml
  | 0, _, document => return document
  | fuel + 1, header, document => do
    skipSpace
    if (← get).isEmpty then return document
    if ← accept "[[" then
      let (path, last) ← readHeader "]]"
      let some document := atHeader path (appendTable last) document | failure
      readDocument fuel (path ++ [last]) document
    else if ← accept "[" then
      let (path, last) ← readHeader "]"
      let some document := atHeader path (openTable last) document | failure
      readDocument fuel (path ++ [last]) document
    else
      let (path, last) ← readKey
      expect "="
      skipBlanks
      let value ← readValue ((← get).length + 1) depthLimit
      finishLine
      let some document := atHeader header (insertPair path last value) document | failure
      readDocument fuel header document

/-- The document of a text; a byte order mark may precede it. -/
def read? (text : String) : Option Toml := do
  let cs := match text.toList with
    | '\uFEFF' :: cs => cs
    | cs => cs
  let (document, rest) ← (readDocument (cs.length + 1) [] empty).run cs
  if rest.isEmpty then some document else none

end SourceRetrieval.Toml
