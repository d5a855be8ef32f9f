/-
Lists in the text of a declaration: parameters, base types, specifiers.

* `splitTopLevel` cuts a list at the commas that no bracket encloses;
* `splitParameters` also drops the receiver of a method;
* `baseName` is a type without its arguments, `baseNames` a list of those;
* `quotedStrings`, `commaNames` and `dottedNames` read import and export lists.

Design notes: a closing angle bracket that ends an arrow is no bracket, so the
scan remembers the character before.  Depth may sink below zero and then still
counts as outside.
-/
import SourceRetrieval.Text.Blank
import SourceRetrieval.Text.Find
import SourceRetrieval.Unicode.Property

namespace SourceRetrieval.Outline

open Text

/-- How a character that follows `before` changes the bracket depth. -/
def depthChange (before c : Char) : Int :=
  if c == '(' || c == '[' || c == '\x7b' || c == '<' then 1
  else if c == ')' || c == ']' || c == '\x7d' then -1
  else if c == '>' && before != '=' && before != '-' then -1
  else 0

/-- The stretches between top-level commas; `current` holds the open one, last
character first.  The depth changes by one at most with each character, so a count of 32 bits
holds it in a text of fewer than 2^31 characters. -/
def splitTopFrom (depth : Int) (before : Char) (current : List Char) :
    List Char → List (List Char)
  | [] => [current.reverse]
  | c :: cs =>
    if c == ',' && depth ≤ 0 then current.reverse :: splitTopFrom depth c [] cs
    else splitTopFrom (depth + depthChange before c) c (c :: current) cs

/-- The entries of a list, their blanks collapsed; blank entries are left out. -/
def splitTopLevelChars (cs : List Char) : List (List Char) :=
  ((splitTopFrom 0 '\x00' [] cs).map collapseChars).filter (!·.isEmpty)

/-- The entries of a list, their blanks collapsed; blank entries are left out. -/
def splitTopLevel (text : String) : List String :=
  (splitTopLevelChars text.toList).map String.ofList

/-- Whether a parameter is the receiver of a method. -/
def isReceiver (parameter : List Char) : Bool :=
  parameter == "cls".toList || receives (unborrowed (trimStart (parameter.dropWhile (· == '&'))))
where
  /-- Drop the lifetime of a borrowed receiver. -/
  unborrowed (rest : List Char) : List Char :=
    match rest with
    | '\'' :: lifetime => trimStart (lifetime.dropWhile (!isBlank ·))
    | rest => rest
  /-- Whether the parameter without its borrow is a receiver. -/
  receives (rest : List Char) : Bool :=
    let bare := trimStart ((dropLead? "mut ".toList rest).getD rest)
    bare == "self".toList || "self:".toList.isPrefixOf bare || "self :".toList.isPrefixOf bare

/-- The parameters of a parameter list, without the receiver of a method. -/
def splitParametersChars (cs : List Char) : List String :=
  ((splitTopLevelChars cs).filter (!isReceiver ·)).map String.ofList

/-- The parameters of a parameter list, without the receiver of a method. -/
def splitParameters (text : String) : List String := splitParametersChars text.toList

/-- A type without its arguments. -/
def baseName (cs : List Char) : List Char := trim (cs.takeWhile (· != '<'))

/-- The base types of a list, each without its arguments. -/
def baseNames (cs : List Char) : List String :=
  (((splitTopLevelChars cs).map baseName).filter (!·.isEmpty)).map String.ofList

/-- Whether a name follows the convention of a capital I in front of an interface. -/
def looksLikeInterface (name : String) : Bool :=
  match (splitBy (· == '.') name.toList).getLast? with
  | some ('I' :: c :: _) => Unicode.isUppercase c
  | _ => false

/-- Whether a text is made of letters, numerals, underscores and dollar signs. -/
def isIdentifier (cs : List Char) : Bool :=
  !cs.isEmpty && cs.all fun c => Unicode.isAlphanumeric c || c == '_' || c == '$'

/-- The name that one entry of an import or export list makes known. -/
def exposedName (entry : List Char) : List Char :=
  let bare := trim entry
  let bare := (dropLead? "type ".toList bare).getD bare
  let bare := dropDots bare.length bare
  let aliased := (afterFirst? " as ".toList bare).getD bare
  trim (aliased.takeWhile (· != ':'))
where
  /-- Drop leading ellipses. -/
  dropDots : Nat → List Char → List Char
    | 0, cs => cs
    | fuel + 1, cs =>
      match dropLead? "...".toList cs with
      | some rest => dropDots fuel rest
      | none => cs

/-- The identifiers of a comma-separated import or export list. -/
def commaNames (cs : List Char) : List String :=
  (((splitBy (· == ',') cs).map exposedName).filter isIdentifier).map String.ofList

/-- The first word of each entry of a comma-separated list. -/
def dottedNames (cs : List Char) : List String :=
  (splitBy (· == ',') cs).filterMap fun entry => (words entry).head?.map String.ofList

/-- The non-empty strings in quotes; `skip` characters are taken up by the last one.  A
quote that is never closed ends the list. -/
def quotedFrom (skip : Nat) : List Char → List String
  | [] => []
  | c :: cs =>
    match skip with
    | rest + 1 => quotedFrom rest cs
    | 0 =>
      if c == '"' || c == '\'' then
        let inner := cs.takeWhile (· != c)
        if inner.length < cs.length then
          if inner.isEmpty then quotedFrom 1 cs
          else String.ofList inner :: quotedFrom (inner.length + 1) cs
        else []
      else quotedFrom 0 cs

/-- The non-empty strings in single or double quotes. -/
def quotedStrings (cs : List Char) : List String := quotedFrom 0 cs

end SourceRetrieval.Outline
