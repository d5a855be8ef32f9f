/-
Languages, told apart by file extension.

* `Language.ofExtension?` and `Language.ofPath?` detect a language;
* `Language.name` is what is shown, `Language.key` what data formats use;
* `Language.matchesFilter` reads what a caller may write for a language.

Design notes: the constructors stand in the order in which languages are listed.
-/
import SourceRetrieval.Path
import SourceRetrieval.Unicode.Property

namespace SourceRetrieval

/-- A language that a file extension can name. -/
inductive Language where
  | typeScript
  | javaScript
  | python
  | rust
  | go
  | java
  | cSharp
  | kotlin
  | swift
  | c
  | cpp
  | ruby
  | php
  | scala
  | shell
  | sql
  | html
  | css
  | json
  | yaml
  | toml
  | xml
  | markdown
  | reStructuredText
  | asciiDoc
  | text
  deriving DecidableEq, Inhabited, Repr

namespace Language

/-- Every language, in order. -/
def all : List Language :=
  [typeScript, javaScript, python, rust, go, java, cSharp, kotlin, swift, c, cpp, ruby, php,
    scala, shell, sql, html, css, json, yaml, toml, xml, markdown, reStructuredText, asciiDoc, text]

/-- The name that is shown. -/
def name : Language → String
  | typeScript => "TypeScript"
  | javaScript => "JavaScript"
  | python => "Python"
  | rust => "Rust"
  | go => "Go"
  | java => "Java"
  | cSharp => "C#"
  | kotlin => "Kotlin"
  | swift => "Swift"
  | c => "C"
  | cpp => "C++"
  | ruby => "Ruby"
  | php => "PHP"
  | scala => "Scala"
  | shell => "Shell"
  | sql => "SQL"
  | html => "HTML"
  | css => "CSS"
  | json => "JSON"
  | yaml => "YAML"
  | toml => "TOML"
  | xml => "XML"
  | markdown => "Markdown"
  | reStructuredText => "reStructuredText"
  | asciiDoc => "AsciiDoc"
  | text => "Text"

/-- The name in data formats: letters alone. -/
def key : Language → String
  | cSharp => "CSharp"
  | cpp => "Cpp"
  | php => "Php"
  | sql => "Sql"
  | html => "Html"
  | css => "Css"
  | json => "Json"
  | yaml => "Yaml"
  | toml => "Toml"
  | xml => "Xml"
  | reStructuredText => "ReStructuredText"
  | language => language.name

/-- The language of a key. -/
def ofKey? (key : String) : Option Language := all.find? (·.key == key)

/-- The extensions of a language, in lower case. -/
def extensions : Language → List String
  | typeScript => ["ts", "tsx", "mts", "cts"]
  | javaScript => ["js", "jsx", "mjs", "cjs"]
  | python => ["py", "pyi"]
  | rust => ["rs"]
  | go => ["go"]
  | java => ["java"]
  | cSharp => ["cs"]
  | kotlin => ["kt", "kts"]
  | swift => ["swift"]
  | c => ["c", "h"]
  | cpp => ["cpp", "cc", "cxx", "hpp", "hh", "hxx"]
  | ruby => ["rb"]
  | php => ["php"]
  | scala => ["scala"]
  | shell => ["sh", "bash", "zsh"]
  | sql => ["sql"]
  | html => ["html", "htm"]
  | css => ["css", "scss", "sass", "less"]
  | json => ["json"]
  | yaml => ["yaml", "yml"]
  | toml => ["toml"]
  | xml => ["xml"]
  | markdown => ["md", "markdown"]
  | reStructuredText => ["rst"]
  | asciiDoc => ["adoc", "asciidoc"]
  | text => ["txt"]

/-- The language of a file extension, in any case. -/
def ofExtension? (extension : String) : Option Language :=
  let lowered := Unicode.lowercase extension
  all.find? (·.extensions.contains lowered)

/-- The language of a path. -/
def ofPath? (p : Path) : Option Language := p.extension?.bind ofExtension?

/-- A documentation format. -/
def isDocumentation : Language → Bool
  | markdown | reStructuredText | asciiDoc | text => true
  | _ => false

/-- Whether a caller's filter means this language: by name, by key or by extension. -/
def matchesFilter (language : Language) (filter : String) : Bool :=
  let wanted := String.ofList ((Text.trim filter.toList).dropWhile (· == '.'))
  wanted.toLower == language.name.toLower || wanted.toLower == language.key.toLower
    || ofExtension? wanted == some language

end Language

end SourceRetrieval
