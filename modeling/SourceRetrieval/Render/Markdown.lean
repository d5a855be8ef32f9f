/-
Answers as markdown.

* `renderMarkdown` writes an answer into a given number of bytes;
* `fileSection` is what it says of one file.

Design notes: sections are taken in order while they fit; the first section
that does not ends the text, with a note on how many are left out.
-/
import SourceRetrieval.Engine.Context
import SourceRetrieval.Number.Print
import SourceRetrieval.Text.Lines

namespace SourceRetrieval

/-- How an answer is written. -/
structure FormatOptions where
  /-- The most bytes of the text. -/
  maxChars : Nat := 24000
  /-- The number of lines shown of a file without excerpts. -/
  contentLines : Nat := 40
  /-- Whether the declared names are listed. -/
  includeSymbols : Bool := true
  deriving Inhabited

namespace Render

/-- What marks a text that was cut off. -/
def truncationMark : String := "\n[output truncated]\n"

/-- A text cut to at most `limit` bytes, with a mark if there is room for it. -/
def clampText (limit : Nat) (text : String) : String :=
  if text.utf8ByteSize ≤ limit then text
  else
    let room := limit - truncationMark.utf8ByteSize
    let kept := String.ofList (Text.takeBytes room text.toList)
    if kept.utf8ByteSize + truncationMark.utf8ByteSize ≤ limit then kept ++ truncationMark else kept

/-- The tag of a code block in a language. -/
def fenceTag : Option Language → String
  | none => ""
  | some .cSharp => "csharp"
  | some .cpp => "cpp"
  | some .reStructuredText => "rst"
  | some language => language.name.toLower

/-- The name of a language. -/
def languageName (language : Option Language) : String := (language.map (·.name)).getD "unknown"

/-- A block of code. -/
def codeBlock (tag text : String) : String := "```" ++ tag ++ "\n" ++ text ++ "\n```\n"

/-- What an answer begins with. -/
def header (context : RetrievalContext) : String :=
  let metadata := context.metadata
  "# Code context for `" ++ metadata.query ++ "`\n\nSearch type: " ++ metadata.kind.name
    ++ " | files: " ++ toString context.files.length
    ++ " | matches: " ++ toString context.totalMatches
    ++ " | relevance: " ++ Number.fixed 2 context.relevance
    ++ " | " ++ toString metadata.timeMs ++ " ms\n"
    ++ if metadata.timedOut then "\n_Search stopped early; results may be incomplete._\n" else ""

/-- An excerpt with its lines. -/
def excerptBlock (tag : String) (excerpt : Excerpt) : String :=
  "\nLines " ++ toString excerpt.firstLine ++ "-" ++ toString excerpt.lastLine ++ ":\n"
    ++ codeBlock tag excerpt.text

/-- The first lines of a content, and how many there are besides. -/
def contentBlock (tag : String) (count : Nat) (content : String) : String :=
  let lines := (Text.lines content.toList).map String.ofList
  let shown := lines.take count
  "\n" ++ codeBlock tag ("\n".intercalate shown)
    ++ if shown.length < lines.length then
      "_" ++ toString (lines.length - shown.length) ++ " more line(s)_\n"
    else ""

/-- What an answer says of a file. -/
def fileSection (options : FormatOptions) (file : AnalyzedFile) : String :=
  let tag := fenceTag file.language
  let symbols := file.outline.symbolNames
  "\n## " ++ file.relativePath ++ " (" ++ languageName file.language ++ ", score "
    ++ Number.fixed 1 file.relevance ++ ")\n"
    ++ (if options.includeSymbols && !symbols.isEmpty then
      "\nSymbols: " ++ ", ".intercalate symbols ++ "\n" else "")
    ++ if !file.excerpts.isEmpty then String.join (file.excerpts.map (excerptBlock tag))
    else if 0 < options.contentLines && !file.content.isEmpty then
      contentBlock tag options.contentLines file.content
    else ""

/-- The note on sections that are left out. -/
def omissionNote (count : Nat) : String := "\n_" ++ toString count ++ " more file(s) omitted._\n"

/-- Add sections to a text while they fit into `limit` bytes. -/
def addSections (limit : Nat) (sofar : String) : List String → String
  | [] => sofar
  | part :: rest =>
    if limit < sofar.utf8ByteSize + part.utf8ByteSize then
      let note := omissionNote (rest.length + 1)
      if sofar.utf8ByteSize + note.utf8ByteSize ≤ limit then sofar ++ note else sofar
    else addSections limit (sofar ++ part) rest

end Render

open Render in
/-- An answer as markdown. -/
def renderMarkdown (options : FormatOptions) (context : RetrievalContext) : String :=
  let head := header context
  match context.files.map (fileSection options) with
  | [] => clampText options.maxChars (head ++ "\nNo matching files.\n")
  | first :: rest =>
    if options.maxChars < head.utf8ByteSize + first.utf8ByteSize then
      clampText options.maxChars (head ++ first)
    else addSections options.maxChars head (first :: rest)

end SourceRetrieval
