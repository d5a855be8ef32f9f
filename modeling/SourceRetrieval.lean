import SourceRetrieval.Unicode.Property
import SourceRetrieval.Text.Blank
import SourceRetrieval.Text.Lines
import SourceRetrieval.Text.Find
import SourceRetrieval.Pattern.Matching
import SourceRetrieval.Language
import SourceRetrieval.Outline.Basic
import SourceRetrieval.Outline.Parameters
import SourceRetrieval.Outline.Builtin
import SourceRetrieval.Ranking.Score
import SourceRetrieval.Number.Print
import SourceRetrieval.Number.Read
import SourceRetrieval.Options
import SourceRetrieval.Config.Environment
import SourceRetrieval.Glob.PatternSet
import SourceRetrieval.Glob.Ignore
import SourceRetrieval.Text.Utf8
import SourceRetrieval.FileTree.Memory
import SourceRetrieval.FileTree.Disk
import SourceRetrieval.Walk
import SourceRetrieval.Engine.Related
import SourceRetrieval.Main
import SourceRetrieval.Proofs.Cache.Recency
import SourceRetrieval.Proofs.Text.Offset
import SourceRetrieval.Proofs.Walk.Admission
import SourceRetrieval.Proofs.Engine.Ranking
import SourceRetrieval.Proofs.Engine.Runs
import SourceRetrieval.Proofs.Imports.Containment
import SourceRetrieval.Proofs.Imports.BreadthFirst
import SourceRetrieval.Proofs.Engine.Race
import SourceRetrieval.Proofs.Engine.Limits
import SourceRetrieval.Proofs.FileTree.Removal
import SourceRetrieval.Proofs.Walk.Removal
import SourceRetrieval.Proofs.Engine.Isolation
import SourceRetrieval.Proofs.Engine.Discovery
import SourceRetrieval.Proofs.Engine.Related
import SourceRetrieval.Proofs.Engine.Ceiling
import SourceRetrieval.Proofs.Render.Budget
import SourceRetrieval.Proofs.Outline.Findings
import SourceRetrieval.Proofs.Outline.Merging
import SourceRetrieval.Proofs.Ranking.References
import SourceRetrieval.Proofs.Ranking.Found
import SourceRetrieval.Proofs.Ranking.Ranges
import SourceRetrieval.Proofs.Query.Coverage
import SourceRetrieval.Proofs.Outline.Braces
import SourceRetrieval.Proofs.Outline.CodeBytes
import SourceRetrieval.Proofs.FileTree.Views
import SourceRetrieval.Proofs.Path.Relative
import SourceRetrieval.Proofs.Engine.Reported
import SourceRetrieval.Proofs.Engine.Excerpts
import SourceRetrieval.Proofs.Text.WholeWords
import SourceRetrieval.Proofs.Ranking.LineByLine
import SourceRetrieval.Proofs.Ranking.Neighbours
import SourceRetrieval.Proofs.Ranking.Share
import SourceRetrieval.Proofs.Ranking.Edits
import SourceRetrieval.Proofs.Outline.Parameters
import SourceRetrieval.Proofs.Outline.Quotes
import SourceRetrieval.Proofs.Outline.Builtin
import SourceRetrieval.Proofs.Outline.Inherited
import SourceRetrieval.Proofs.Outline.Exports
import SourceRetrieval.Proofs.Text.Slice
import SourceRetrieval.Proofs.Pattern.Boundaries
import SourceRetrieval.Proofs.Outline.CheckedBody
import SourceRetrieval.Proofs.Outline.CheckedOutline
import SourceRetrieval.Proofs.Engine.Highlights
import SourceRetrieval.Proofs.Engine.BothWays
import SourceRetrieval.Proofs.Glob.Union
import SourceRetrieval.Proofs.Walk.Narrowing
import SourceRetrieval.Proofs.Engine.Repeated
import SourceRetrieval.Proofs.Path.NormalForm
import SourceRetrieval.Proofs.Query.Terms
import SourceRetrieval.Proofs.Number.Narrow
import SourceRetrieval.Proofs.Options
import SourceRetrieval.Proofs.Render.Fences
import SourceRetrieval.Proofs.Text.Utf8
import SourceRetrieval.Proofs.Text.LineIndex
import SourceRetrieval.Proofs.Engine.Decoding
import SourceRetrieval.Proofs.Outline.Blocks
