/-
Values of the configuration language TOML.

* `Toml` is a value; a table remembers how it came about, because that decides
  what may still be added to it;
* `Toml.insertPair` and `Toml.openTable` add a dotted key or a table header to
  a document, or refuse.

Design notes: the entries of a table are a list without repeated keys, in the
order of the text.
-/

namespace SourceRetrieval

/-- How a table came about. -/
inductive TableOrigin where
  /-- It has a header of its own, or is written between braces. -/
  | written
  /-- A header of a table inside it mentions it. -/
  | mentioned
  /-- Dotted keys mention it. -/
  | dotted
  deriving DecidableEq, Inhabited, Repr

/-- A value. -/
inductive Toml where
  | string (text : String)
  | integer (value : Int)
  | float (value : Float)
  | boolean (value : Bool)
  | dateTime
  | array (items : List Toml)
  | table (origin : TableOrigin) (closed : Bool) (entries : List (String × Toml))
  /-- Tables that share a repeated header, the last one first. -/
  | tables (items : List Toml)
  deriving Inhabited

namespace Toml

/-- The entries of a table. -/
abbrev Entries := List (String × Toml)

/-- The document without entries. -/
def empty : Toml := table .written false []

/-- Put a value in the place of the one a key has, or at the end. -/
def setEntry (key : String) (value : Toml) : Entries → Entries
  | [] => [(key, value)]
  | (k, v) :: rest => if k == key then (k, value) :: rest else (k, v) :: setEntry key value rest

/-- Whether a dotted key may go on from a value below a table, or go on to its last part
there if `final`.  Tables with a header or braces of their own are closed to it, and its last
part goes to a table that comes from dotted keys. -/
def isOpen (final : Bool) : Toml → Bool
  | table .dotted closed _ => !closed
  | table .mentioned closed _ => !closed && !final
  | tables _ => !final
  | _ => false

/-- Add a value under a dotted key below a table. -/
def insertPair (path : List String) (last : String) (value : Toml) : Toml → Option Toml
  | table origin closed entries =>
    match path with
    | [] =>
      if (entries.lookup last).isSome then none
      else some (table origin closed (entries ++ [(last, value)]))
    | key :: rest => do
      let inner := (entries.lookup key).getD (table .dotted false [])
      guard (isOpen rest.isEmpty inner)
      let changed ← match inner with
        | tables (newest :: before) =>
          (insertPair rest last value newest).map fun newest => tables (newest :: before)
        | inner => insertPair rest last value inner
      some (table origin closed (setEntry key changed entries))
  | _ => none

/-- Change what a path of headers leads to, making the tables on the way. -/
def atHeader (path : List String) (change : Toml → Option Toml) (place : Toml) : Option Toml :=
  match path with
  | [] =>
    match place with
    | tables (last :: before) => (change last).map fun t => tables (t :: before)
    | place => change place
  | key :: rest => do
    let enter := fun (place : Toml) => do
      let .table origin false entries := place | none
      let inner := (entries.lookup key).getD (table .mentioned false [])
      let changed ← atHeader rest change inner
      some (table origin false (setEntry key changed entries))
    match place with
    | tables (last :: before) => (enter last).map fun t => tables (t :: before)
    | place => enter place

/-- Give a table a header of its own, which it must not have yet. -/
def openTable (key : String) : Toml → Option Toml
  | table origin false entries =>
    match entries.lookup key with
    | none => some (table origin false (entries ++ [(key, table .written false [])]))
    | some (table .mentioned false inner) =>
      some (table origin false (setEntry key (table .written false inner) entries))
    | some _ => none
  | _ => none

/-- Begin one more of the tables that share a header. -/
def appendTable (key : String) : Toml → Option Toml
  | table origin false entries =>
    match entries.lookup key with
    | none => some (table origin false (entries ++ [(key, tables [empty])]))
    | some (tables items) => some (table origin false (setEntry key (tables (empty :: items)) entries))
    | some _ => none
  | _ => none

end Toml

end SourceRetrieval
