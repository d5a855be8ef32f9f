/-
Finding a set of characters by the name of a property.

* `looseName` is the loose form of a name, in which case and separators do not count;
* `CodeSet.named?` finds a property, a general category or a script by its name;
* `CodeSet.valued?` finds the characters for which a property has a value.

Design notes: a name stands for a property first, then for a category, then for a
script.  Three short names of categories are also short names of properties, and mean
the categories.
-/
import SourceRetrieval.Unicode.Age
import SourceRetrieval.Unicode.Segment

namespace SourceRetrieval.Unicode

/-- The loose form of a name: small ASCII letters, without a leading `is` and without
blanks, hyphens and low lines.  The name `isc` is no loose spelling of `c`. -/
def looseName (name : List Char) : String :=
  let plain := fun (cs : List Char) =>
    (cs.filter fun c => c.toNat < 128 && c != ' ' && c != '_' && c != '-').map Char.toLower
  match name with
  | 'i' :: 's' :: rest | 'i' :: 'S' :: rest | 'I' :: 's' :: rest | 'I' :: 'S' :: rest =>
    let loose := plain rest
    if loose == ['c'] then "isc" else String.ofList loose
  | name => String.ofList (plain name)

namespace CodeSet

/-- The characters of the property, category or script of a name. -/
def named? (name : List Char) : Option CodeSet :=
  let loose := looseName name
  (Trait.named? loose <|> Category.named? loose) <|> Script.named? loose

/-- The characters for which the property of a name has the value of a name. -/
def valued? (name value : List Char) : Option CodeSet :=
  let loose := looseName value
  match looseName name with
  | "gc" | "generalcategory" => Category.named? loose
  | "sc" | "script" => Script.named? loose
  | "scx" | "scriptextensions" => Script.extended? loose
  | "age" => Age.upTo? loose
  | "gcb" | "graphemeclusterbreak" => Segment.grapheme? loose
  | "wb" | "wordbreak" => Segment.word? loose
  | "sb" | "sentencebreak" => Segment.sentence? loose
  | _ => none

end CodeSet

end SourceRetrieval.Unicode
