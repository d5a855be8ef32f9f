/-
What the program does with its arguments.

* `Invocation.config` settles the configuration, `Invocation.perform` does what
  is asked for;
* `Reply.print` is what the program says, and `run` the whole way.

Design notes: everything that the program looks at is passed in, so the
program itself only reads files and prints.
-/
import SourceRetrieval.Cli.Arguments
import SourceRetrieval.Engine.Related
import SourceRetrieval.Outline.Builtin
import SourceRetrieval.Render.Json
import SourceRetrieval.Render.Outline

namespace SourceRetrieval.Cli

/-- What surrounds the program. -/
structure Surroundings where
  /-- The working directory. -/
  here : Path
  /-- Where configuration files are kept. -/
  configDirectory : Path
  env : Environment

namespace Surroundings

/-- The configuration file that is looked for without being asked for. -/
def usualConfigFile (around : Surroundings) : Path :=
  around.configDirectory.joinAll ["code-context", "config.toml"]

end Surroundings

/-- What the program has found. -/
inductive Reply where
  | context (found : RetrievalContext) (arguments : SearchArguments)
  | file (found : AnalyzedFile)
  | config (text : String)
  deriving Inhabited

/-- The configuration in a file. -/
def configOfFile (tree : FileTree) (path : Path) : Except Failure Config :=
  match tree.read path with
  | .ok bytes => Config.load bytes
  | .error failure =>
    .error (.config (.loadFailed ("Failed to read config file: " ++ failure.text)))

/-- The configuration of a file and of the environment.  Without a file of its own a call
uses the usual one, which need not exist. -/
def baseConfig (around : Surroundings) (tree : FileTree) (own : Option Path) :
    Except Failure Config := do
  match own with
  | some path =>
    if tree.exists? (around.here.join path.text) then
      return (← configOfFile tree (around.here.join path.text)).override around.env
    else .error (.config (.fileNotFound path.text))
  | none =>
    let usual := around.here.join around.usualConfigFile.text
    let config ← if tree.exists? usual then configOfFile tree usual else pure {}
    let config := config.override around.env
    config.validate
    return config

namespace Invocation

/-- The configuration of a call, with the root that it asks for. -/
def config (invocation : Invocation) (around : Surroundings) (tree : FileTree) :
    Except Failure Config := do
  let config ← baseConfig around tree invocation.configFile
  let root := (invocation.root.or config.workspace.root).getD around.here
  let config := { config with workspace.root := some root }
  config.validate
  return config

/-- The options of a search. -/
def searchOptionsOf (arguments : SearchArguments) : SearchOptions :=
  { maxFiles := arguments.maxFiles
    includeTests := arguments.tests
    includeDocs := arguments.docs
    includeLanguages := if arguments.languages.isEmpty then none else some arguments.languages
    contextWindow := arguments.context
    kind := arguments.kind
    excludePatterns := arguments.excludes
    timeoutMs := arguments.timeoutMs
    maxHops := arguments.maxHops }

/-- Do what is asked for. -/
def perform (invocation : Invocation) (around : Surroundings) (config : Config)
    (tree : FileTree) : Except Failure Reply := do
  let engine := do
    let some rules := RuleRegistry.builtin? | .error (.pattern "malformed built-in rule")
    Engine.make config rules {} .standard around.here tree
  let answer := fun (reply : RetrievalContext × Engine) (arguments : SearchArguments) =>
    Reply.context reply.1 arguments
  match invocation.command with
  | .config =>
    match config.print? with
    | some text => return .config text
    | none => .error (.other "serialize configuration")
  | .search query arguments =>
    return answer ((← engine).search tree query (searchOptionsOf arguments) false) arguments
  | .semantic query arguments =>
    return answer ((← engine).searchMeaning tree query (searchOptionsOf arguments)) arguments
  | .usages name arguments =>
    return answer ((← engine).findUsages tree name (searchOptionsOf arguments)) arguments
  | .related path arguments =>
    return answer ((← engine).findRelated tree path (searchOptionsOf arguments)) arguments
  | .analyze path =>
    match ((← engine).analyze tree path).1 with
    | some file => return .file file
    | none => .error (.other ("cannot analyze " ++ path ++ ": not found or not a text file"))

end Invocation

/-- What the program says; a search took `timeMs` milliseconds. -/
def Reply.print (json : Bool) (timeMs : Nat) : Reply → String
  | .context found arguments =>
    let timed := { found with metadata.timeMs := timeMs }
    if json then timed.toJson.print ++ "\n"
    else renderMarkdown { maxChars := arguments.maxChars } timed ++ "\n"
  | .file found => if json then found.toJson.print ++ "\n" else Render.renderOutline found
  | .config text => text

/-- How a run of the program ends. -/
inductive Outcome where
  | done (reply : Reply) (json : Bool)
  | failed (failure : Failure)
  | misused
  deriving Inhabited

/-- The exit code of an end. -/
def Outcome.code : Outcome → Nat
  | done _ _ => 0
  | failed _ => 1
  | misused => 2

/-- Run the program. -/
def run (around : Surroundings) (tree : FileTree) (arguments : List String) : Outcome :=
  match Invocation.ofArguments? around.env arguments with
  | none => .misused
  | some invocation =>
    let reply := do
      let config ← invocation.config around tree
      invocation.perform around config tree
    match reply with
    | .ok reply => .done reply invocation.json
    | .error failure => .failed failure

end SourceRetrieval.Cli
