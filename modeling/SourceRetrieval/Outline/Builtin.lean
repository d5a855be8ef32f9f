/-
The registry of the languages that come with the library: TypeScript,
JavaScript, Python, Rust, Go, Java and C#.
-/
import SourceRetrieval.Outline.Extract
import SourceRetrieval.Outline.Rules.Script
import SourceRetrieval.Outline.Rules.Python
import SourceRetrieval.Outline.Rules.Rust
import SourceRetrieval.Outline.Rules.Go
import SourceRetrieval.Outline.Rules.Java
import SourceRetrieval.Outline.Rules.CSharp

namespace SourceRetrieval

/-- The built-in languages; `none` if one of their patterns were malformed. -/
def RuleRegistry.builtin? : Option RuleRegistry := do
  return RuleRegistry.empty
    |>.register .typeScript (← Outline.Script.rules? true)
    |>.register .javaScript (← Outline.Script.rules? false)
    |>.register .python (← Outline.Python.rules?)
    |>.register .rust (← Outline.Rust.rules?)
    |>.register .go (← Outline.Go.rules?)
    |>.register .java (← Outline.Java.rules?)
    |>.register .cSharp (← Outline.CSharp.rules?)

end SourceRetrieval
