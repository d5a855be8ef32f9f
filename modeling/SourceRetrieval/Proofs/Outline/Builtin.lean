/-
The registry of the built-in rules.

* `isSome_of_mem_tables` — every pattern of the built-in languages can be read;
* `builtin?_eq` — so there is a registry of them, `RuleRegistry.builtin`;
* `get?_builtin` — TypeScript and JavaScript have their rules in it.

Design notes: the rules of each language are taken out of their table apart from the others, so
to look a text over with the rules of one language takes no reading of another one's patterns.
-/
import SourceRetrieval.Outline.Builtin

namespace SourceRetrieval

namespace Outline

/-- What the patterns of the built-in languages are read as. -/
def tables : List (Option RuleSet) :=
  [Script.rules? true, Script.rules? false, Python.rules?, Rust.rules?, Go.rules?, Java.rules?,
    CSharp.rules?]

/-- No pattern of these languages is malformed. -/
theorem isSome_of_mem_tables : ∀ rules? ∈ tables, rules?.isSome = true := by decide +kernel

theorem Script.rules?_mem_tables (typed : Bool) : rules? typed ∈ tables := by
  cases typed <;> simp [tables]

theorem Python.rules?_mem_tables : rules? ∈ tables := by simp [tables]

theorem Rust.rules?_mem_tables : rules? ∈ tables := by simp [tables]

theorem Go.rules?_mem_tables : rules? ∈ tables := by simp [tables]

theorem Java.rules?_mem_tables : rules? ∈ tables := by simp [tables]

theorem CSharp.rules?_mem_tables : rules? ∈ tables := by simp [tables]

/-- The rules of a table. -/
def tableRules {rules? : Option RuleSet} (h : rules? ∈ tables) : RuleSet :=
  rules?.get (isSome_of_mem_tables rules? h)

theorem eq_some_tableRules {rules? : Option RuleSet} (h : rules? ∈ tables) :
    rules? = some (tableRules h) :=
  (Option.some_get _).symm

/-- The rules of JavaScript, or of TypeScript if `typed`. -/
def Script.rules (typed : Bool) : RuleSet := tableRules (rules?_mem_tables typed)

/-- The rules of Python. -/
def Python.rules : RuleSet := tableRules rules?_mem_tables

theorem Script.exportRule_rules (typed : Bool) : (rules typed).exportRule = .keyword "export" := by
  have h : rules? typed = some (rules typed) := eq_some_tableRules (rules?_mem_tables typed)
  simp only [rules?, Option.bind_eq_bind, Option.bind_eq_some_iff] at h
  obtain ⟨_, -, h⟩ := h
  rw [← Option.some_inj.mp h]

end Outline

namespace RuleRegistry

open Outline

/-- The built-in languages with their rules. -/
def builtin : RuleRegistry :=
  RuleRegistry.empty
    |>.register .typeScript (Script.rules true)
    |>.register .javaScript (Script.rules false)
    |>.register .python Python.rules
    |>.register .rust (tableRules Rust.rules?_mem_tables)
    |>.register .go (tableRules Go.rules?_mem_tables)
    |>.register .java (tableRules Java.rules?_mem_tables)
    |>.register .cSharp (tableRules CSharp.rules?_mem_tables)

/-- The registry can be made. -/
theorem builtin?_eq : builtin? = some builtin := by
  rw [builtin?, eq_some_tableRules (Script.rules?_mem_tables true),
    eq_some_tableRules (Script.rules?_mem_tables false),
    eq_some_tableRules Python.rules?_mem_tables, eq_some_tableRules Rust.rules?_mem_tables,
    eq_some_tableRules Go.rules?_mem_tables, eq_some_tableRules Java.rules?_mem_tables,
    eq_some_tableRules CSharp.rules?_mem_tables]
  rfl

theorem get?_builtin (typed : Bool) :
    builtin.get? (if typed then .typeScript else .javaScript) = some (Outline.Script.rules typed) :=
  match typed with
  | true => rfl
  | false => rfl

end RuleRegistry

end SourceRetrieval
