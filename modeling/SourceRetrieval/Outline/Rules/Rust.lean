/-
The rules of Rust.

Methods stand in blocks apart from the type they belong to, and `pub` without
a restriction exports.
-/
import SourceRetrieval.Outline.Rules.Fragments

namespace SourceRetrieval.Outline.Rust

/-- The visibility of a declaration, restricted ones included. -/
def visibility : List Char := re r"(?:(?P<export>pub[ \t]+)|pub[ \t]*\([^)]*\)[ \t]*)?"

/-- A function with its signature. -/
def function : List (List Char) :=
  [lineHead, visibility, re r"(?:default[ \t]+)?(?:const[ \t]+)?(?:async[ \t]+)?(?:unsafe[ \t]+)?",
    re r#"(?:extern[ \t]+"[^"]*"[ \t]+)?fn[ \t]+(?P<name>\w+)[ \t]*(?:<[^(]*>)?[ \t]*"#,
    parameterList, re r"(?:[ \t]*->[ \t]*(?P<ret>[^\x7b;]+?))?[ \t]*(?:where\b[^\x7b;]*)?[\x7b;]"]

/-- Types with their fields. -/
def classRule : Option OutlineRule := do
  let pattern ← piecewise? [lineHead, visibility,
    re r"(?:struct|enum|union)[ \t]+(?P<name>\w+)"]
  let members ← memberRules? []
    [lineHead, re r"(?:pub(?:[ \t]*\([^)]*\))?[ \t]+)?(?P<name>[A-Za-z_]\w*)[ \t]*",
      re r"(?::[^:]|[(\x7b,=]|$)"]
    [] ["where", "impl", "fn"]
  return .classes pattern .explicit members

/-- Blocks of methods. -/
def blockRule : Option OutlineRule := do
  let pattern ← piecewise? [lineHead, re r"(?:unsafe[ \t]+)?impl\b[ \t]*(?:<[^\x7b]*?>)?[ \t]*",
    re r"(?:!?(?P<trait>[\w:]+)(?:<[^\x7b]*?>)?[ \t]+for[ \t]+)?(?P<target>\w+)"]
  let members ← memberRules? function [] [] []
  return .methodBlocks pattern members

/-- The rules of the language. -/
def rules? : Option RuleSet := do
  let rules ← [
    functionRule function,
    classRule,
    blockRule,
    interfaceRule [lineHead, visibility, re r"(?:unsafe[ \t]+)?trait[ \t]+(?P<name>\w+)"],
    typeRule [lineHead, visibility, re r"type[ \t]+(?P<name>\w+)"],
    importRule .single [lineHead, re r"(?:pub(?:[ \t]*\([^)]*\))?[ \t]+)?",
      re r"use[ \t]+(?P<spec>[^;]+);"],
    importRule .single [lineHead, re r"(?:pub(?:[ \t]*\([^)]*\))?[ \t]+)?",
      re r"(?P<spec>mod[ \t]+\w+)[ \t]*;"],
    exportRule .single [re r"^pub[ \t]+use[ \t]+(?P<spec>[^;]+);"],
    exportRule .single [re r#"^pub[ \t]+(?:(?:const|async|unsafe|extern[ \t]+"[^"]*")[ \t]+)*"#,
      re r"(?:fn|struct|enum|trait|type|const|static|mod|union)[ \t]+(?P<spec>\w+)"]].mapM id
  return { exportRule := .keyword "pub", body := .braces, rules }

end SourceRetrieval.Outline.Rust
