/-
The outline of a source file: what it declares, imports and exports.

Design notes: names and specifiers are kept as written; lines count from one.
A method is a function with an owner, and its class lists its name once.
-/

namespace SourceRetrieval

/-- A function or method. -/
structure FunctionDecl where
  name : String
  line : Nat
  parameters : List String
  returnType : Option String
  isExported : Bool
  /-- The class a method belongs to. -/
  owner : Option String
  deriving DecidableEq, Inhabited, Repr

/-- A class, or another type with members. -/
structure ClassDecl where
  name : String
  line : Nat
  /-- The names of the methods, each once. -/
  methods : List String
  properties : List String
  extends? : Option String
  implements : List String
  isExported : Bool
  deriving DecidableEq, Inhabited, Repr

/-- An interface or another named type. -/
structure TypeDecl where
  name : String
  line : Nat
  isExported : Bool
  deriving DecidableEq, Inhabited, Repr

/-- What a source file declares, imports and exports. -/
structure Outline where
  functions : List FunctionDecl := []
  classes : List ClassDecl := []
  interfaces : List TypeDecl := []
  types : List TypeDecl := []
  imports : List String := []
  exports : List String := []
  deriving DecidableEq, Inhabited, Repr

namespace Outline

/-- An outline that holds nothing. -/
def isEmpty (o : Outline) : Bool :=
  o.functions.isEmpty && o.classes.isEmpty && o.interfaces.isEmpty && o.types.isEmpty
    && o.imports.isEmpty && o.exports.isEmpty

/-- Every declared name: functions, classes, interfaces and types, in that order. -/
def symbolNames (o : Outline) : List String :=
  o.functions.map (·.name) ++ o.classes.map (·.name) ++ o.interfaces.map (·.name)
    ++ o.types.map (·.name)

end Outline

end SourceRetrieval
