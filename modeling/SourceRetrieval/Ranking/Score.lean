/-
Scoring: how well a file answers a query.

* `Weights` are the points that the parts of a score are worth;
* `scoreFile` gives a file a score from 0 to 100 and the ranges that matched;
* `tokenScore`, `nameTier` and `scoreUses` are what it is made of.

Design notes: a search for words averages over them, a search by meaning takes
the best of its terms, a search for a declaration takes the best name, and a
search for uses counts kinds of references.  Offsets are collected first and
become ranges at the end, when no more than `maxRanges` are left.
-/
import SourceRetrieval.Analysis
import SourceRetrieval.Listing
import SourceRetrieval.Query.Plan
import SourceRetrieval.Ranking.EditDistance
import SourceRetrieval.Ranking.References

namespace SourceRetrieval

/-- The points that the parts of a score are worth. -/
structure Weights where
  /-- At most this for the number of occurrences of a word. -/
  text : Float := 40
  /-- The number of occurrences that earns all of it. -/
  textSaturation : Float := 20
  /-- The file name contains the word. -/
  fileName : Float := 25
  /-- A declared name is the word. -/
  symbolExact : Float := 35
  /-- A declared name contains the word. -/
  symbolPartial : Float := 25
  /-- The name is the wanted one. -/
  exact : Float := 100
  /-- The name is the wanted one but for case. -/
  caseInsensitive : Float := 95
  /-- One of the names contains the other: this, and a share of the span. -/
  substringBase : Float := 60
  substringSpan : Float := 25
  /-- The names are alike: this, and a share of the span. -/
  fuzzyBase : Float := 30
  fuzzySpan : Float := 30
  /-- What is left of the score for words if no declared name fits. -/
  symbolMissFactor : Float := 0.5
  /-- For each kind of reference. -/
  usageKind : Float := 15
  /-- At most this for the number of references. -/
  usageVolume : Float := 25
  /-- The file declares the name. -/
  usageDefinition : Float := 10
  deriving Inhabited

/-- How a file answers a query. -/
structure Scored where
  /-- From 0 to 100. -/
  score : Float := 0
  /-- By offset, at most `Ranking.maxRanges`. -/
  ranges : List MatchRange := []
  /-- How often the query matched. -/
  matchCount : Nat := 0
  deriving Inhabited

namespace Ranking

open Text

/-- The most ranges kept of a file. -/
def maxRanges : Nat := 50

/-- A file as scoring looks at it. -/
structure View where
  chars : List Char
  /-- The content in lower case, ASCII letters only, so that offsets stay what they are. -/
  lowered : List Char
  fileName : List Char
  /-- The declared names in lower case. -/
  symbols : List (List Char)
  outline : Outline
  index : LineIndex

/-- Make a file ready for scoring. -/
def View.ofFile (file : AnalyzedFile) : View :=
  let chars := file.content.toList
  { chars := chars
    lowered := Query.lower chars
    fileName := Query.lower file.fileName.toList
    symbols := file.outline.symbolNames.map fun name => Query.lower name.toList
    outline := file.outline
    index := LineIndex.ofChars chars }

/-- An occurrence: its offset and its length. -/
abbrev Hit := Nat × Nat

/-- The range of an occurrence. -/
def View.range (view : View) (hit : Hit) : MatchRange :=
  ⟨hit.1, hit.1 + hit.2, view.index.lineOf hit.1⟩

/-- Of neighbours with the same offset keep the first. -/
def dropRepeats : List Hit → List Hit
  | first :: second :: rest =>
    if first.1 = second.1 then dropRepeats (first :: rest)
    else first :: dropRepeats (second :: rest)
  | hits => hits
termination_by hits => hits.length

/-- The first ranges of some occurrences, one for each offset. -/
def View.ranges (view : View) (hits : List Hit) : List MatchRange :=
  ((dropRepeats (sortOn (·.1) hits)).take maxRanges).map view.range

/-- A number, or one if it is not below one. -/
def atMostOne (x : Float) : Float := if x < 1 then x else 1

/-- The share of the points for volume that `count` occurrences earn. -/
def volume (weights : Weights) (count : Nat) : Float :=
  atMostOne (Float.log (1 + Float.ofNat count) / Float.log (1 + weights.textSaturation))

/-- The score of one lower-case word and the offsets where it occurs. -/
def tokenScore (weights : Weights) (view : View) (token : List Char) : Float × List Nat :=
  if token.isEmpty then (0, [])
  else
    let hits := occurrences token view.lowered
    let score : Float := 0
    let score :=
      if hits.isEmpty then score else score + weights.text * volume weights hits.length
    let score := if occursIn token view.fileName then score + weights.fileName else score
    let score :=
      if view.symbols.contains token then score + weights.symbolExact
      else if view.symbols.any (occursIn token) then score + weights.symbolPartial
      else score
    (score, hits)

/-- The occurrences of a word as hits. -/
def tokenHits (token : List Char) (offsets : List Nat) : List Hit :=
  offsets.map fun offset => (offset, byteLength token)

/-- The scores of some words, each with its hits. -/
def tokenScores (weights : Weights) (view : View) (tokens : List String) :
    List (Float × List Hit) :=
  tokens.map fun token =>
    let cs := token.toList
    let (score, offsets) := tokenScore weights view cs
    (score, tokenHits cs offsets)

/-- Put scores and hits together. -/
def collect (view : View) (score : Float) (scored : List (Float × List Hit)) : Scored :=
  let hits := scored.flatMap (·.2)
  ⟨score, view.ranges hits, hits.length⟩

/-- The score of a search for words: the mean over the words. -/
def scoreWords (weights : Weights) (view : View) (tokens : List String) : Scored :=
  if tokens.isEmpty then {}
  else
    let scored := tokenScores weights view tokens
    let total := scored.foldl (fun sum entry => sum + entry.1) 0
    collect view (total / Float.ofNat tokens.length) scored

/-- The score of a search by meaning: that of the best term. -/
def scoreMeaning (weights : Weights) (view : View) (terms : List String) : Scored :=
  let scored := (tokenScores weights view terms).filter fun entry => !(entry.1 ≤ 0)
  let best := scored.foldl (fun best entry => if best < entry.1 then entry.1 else best) 0
  collect view best scored

/-- The points of a declared name against the wanted one. -/
def nameTier (weights : Weights) (threshold : Float32) (wanted name : String) : Float :=
  let a := Query.lower name.toList
  let b := Query.lower wanted.toList
  let (short, long) := if byteLength a ≤ byteLength b then (a, b) else (b, a)
  if name == wanted then weights.exact
  else if a == b then weights.caseInsensitive
  else if !short.isEmpty && occursIn short long then
    let share := Float.ofNat (byteLength short) / Float.ofNat (byteLength long)
    weights.substringBase + weights.substringSpan * share
  else
    let likeness := similarity name wanted
    if likeness ≥ threshold then weights.fuzzyBase + weights.fuzzySpan * likeness.toFloat else 0

/-- The names that a search for a declaration looks through. -/
def candidateNames (outline : Outline) (kind : SearchKind) : List String :=
  if kind = .classes then
    outline.classes.map (·.name) ++ outline.interfaces.map (·.name) ++ outline.types.map (·.name)
  else outline.functions.map (·.name)

/-- The first of the names with the most points, if any earns some. -/
def bestName? (tier : String → Float) (names : List String) : Option (Float × String) :=
  names.foldl better none
where
  /-- The better of the best so far and one more name. -/
  better (best : Option (Float × String)) (name : String) : Option (Float × String) :=
    let points := tier name
    -- Of two names with the same points the first stays.
    let improves := match best with
      | none => true
      | some (most, _) => points > most
    if points > 0 && improves then some (points, name) else best

/-- The score of a search for a declaration: that of the best name, or less for the words
alone. -/
def scoreSymbol (weights : Weights) (threshold : Float32) (view : View) (plan : QueryPlan) :
    Scored :=
  match plan.symbol.filter (!·.isEmpty) with
  | none => scoreWords weights view plan.tokens
  | some wanted =>
    match bestName? (nameTier weights threshold wanted) (candidateNames view.outline plan.kind) with
    | some (score, name) =>
      let offsets := wordOccurrences name.toList view.chars
      -- A declared name is a match even if it is nowhere in the text as a word.
      ⟨score, view.ranges (tokenHits name.toList offsets), max offsets.length 1⟩
    | none =>
      let fallback := scoreWords weights view plan.tokens
      { fallback with score := fallback.score * weights.symbolMissFactor }

/-- The lines that declare a name, in order. -/
def declaredLines (outline : Outline) (name : String) : List Nat :=
  let functions := (outline.functions.filter (·.name == name)).map (·.line)
  let classes := (outline.classes.filter (·.name == name)).map (·.line)
  let types := ((outline.interfaces ++ outline.types).filter (·.name == name)).map (·.line)
  sortOn id (distinct (functions ++ classes ++ types))

/-- The range of a name on a line that declares it. -/
def declaredRange? (view : View) (name : List Char) (line : Nat) : Option MatchRange := do
  let start := view.index.lineStart line
  let text := cut start (view.index.lineEnd line) view.chars
  let offset ← (wordOccurrences name text).head?
  return view.range (start + offset, byteLength name)

/-- The score of a search for the uses of a name. -/
def scoreUses (weights : Weights) (view : View) (symbol : Option String) : Scored :=
  match symbol.filter (!·.isEmpty) with
  | none => {}
  | some name =>
    let declared := declaredLines view.outline name
    let references := findReferences view.chars name.toList declared
    if references.isEmpty && declared.isEmpty then {}
    else
      let kinds := distinct (references.map (·.kind))
      let score := weights.usageKind * Float.ofNat kinds.length
      let score :=
        if references.isEmpty then score
        else score + weights.usageVolume * volume weights references.length
      let score := if declared.isEmpty then score else score + weights.usageDefinition
      let ranges := references.map (fun r => MatchRange.mk r.start r.stop r.line)
        ++ declared.filterMap (declaredRange? view name.toList)
      ⟨score, (sortOn (·.start) ranges).take maxRanges, ranges.length⟩

/-- A score brought between 0 and 100; what is no number is 0. -/
def clampScore (score : Float) : Float :=
  if score < 0 then 0
  else if score > 100 then 100
  else if score.isNaN then 0
  else score

/-- How a file answers a query. -/
def scoreFile (weights : Weights) (threshold : Float32) (plan : QueryPlan) (file : AnalyzedFile) :
    Scored :=
  let view := View.ofFile file
  let scored := match plan.kind with
    | .keyword => scoreWords weights view plan.tokens
    | .function | .classes => scoreSymbol weights threshold view plan
    | .usage => scoreUses weights view plan.symbol
    | .semantic => scoreMeaning weights view plan.expansions
  { scored with score := clampScore scored.score }

end Ranking

end SourceRetrieval
