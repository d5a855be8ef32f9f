/-
The arguments of the program.

* `Invocation.ofArguments?` reads them, or nothing if they are not used as they
  should be;
* `Command` is what the program is asked to do.

Design notes: an option is looked up in the table of the command it stands
behind, so a new option is a new entry.  Options for all commands may stand
before the command or behind it, and there behind counts.  Only options that
make a list may be repeated.
-/
import SourceRetrieval.Number.Read
import SourceRetrieval.Options
import SourceRetrieval.Config.Environment

namespace SourceRetrieval.Cli

/-- The options of a search as they are given. -/
structure SearchArguments where
  maxFiles : Option Int := none
  tests : Bool := false
  docs : Bool := false
  languages : List String := []
  excludes : List String := []
  context : Option Int := none
  timeoutMs : Option Nat := none
  maxChars : Nat := 24000
  kind : Option SearchKind := none
  maxHops : Option Int := none
  deriving Inhabited

/-- What the program is asked to do. -/
inductive Command where
  | search (query : String) (arguments : SearchArguments)
  | semantic (query : String) (arguments : SearchArguments)
  | usages (name : String) (arguments : SearchArguments)
  | related (path : String) (arguments : SearchArguments)
  | analyze (path : String)
  | config
  deriving Inhabited

/-- The file that a command is about, if there is one. -/
def Command.file? : Command → Option String
  | related path _ | analyze path => some path
  | _ => none

/-- The arguments of the program. -/
structure Invocation where
  root : Option Path
  configFile : Option Path
  json : Bool
  command : Command
  deriving Inhabited

/-- The name of an option, the same for its short and its long form. -/
inductive OptionName where
  | root
  | config
  | json
  | maxFiles
  | tests
  | docs
  | lang
  | exclude
  | context
  | timeoutMs
  | maxChars
  | kind
  | maxHops
  deriving DecidableEq, Inhabited, Repr

namespace OptionName

/-- Whether an option has no value. -/
def isFlag : OptionName → Bool
  | json | tests | docs => true
  | _ => false

/-- Whether an option may be repeated. -/
def isList : OptionName → Bool
  | lang | exclude => true
  | _ => false

end OptionName

/-- Options that every command has. -/
def commonOptions : List (String × OptionName) :=
  [("--root", .root), ("--config", .config), ("--json", .json)]

/-- Options that every search has. -/
def searchOptions : List (String × OptionName) :=
  [("--max-files", .maxFiles), ("-n", .maxFiles), ("--tests", .tests), ("--docs", .docs),
    ("--lang", .lang), ("--exclude", .exclude), ("--context", .context),
    ("--timeout-ms", .timeoutMs), ("--max-chars", .maxChars)]

/-- The options that a command has in addition to those of all commands; none if there is no
such command. -/
def ownOptions? : String → Option (List (String × OptionName))
  | "search" => some (("--type", .kind) :: searchOptions)
  | "semantic" | "usages" => some searchOptions
  | "related" => some (("--max-hops", .maxHops) :: searchOptions)
  | "analyze" | "config" => some []
  | _ => none

/-- An option as it is given, with its value unless it is a flag. -/
abbrev Given := OptionName × String

/-- An argument that looks like an option. -/
def isOption (argument : String) : Bool :=
  match argument.toList with
  | '-' :: _ :: _ => true
  | _ => false

/-- The name of an option in an argument, and its value if that is in the argument too. -/
def splitOption (argument : String) : String × Option String :=
  match argument.toList with
  | '-' :: '-' :: _ =>
    let name := argument.toList.takeWhile (· != '=')
    (String.ofList name, (argument.toList.drop name.length).tail?.map String.ofList)
  | '-' :: letter :: rest =>
    let value := match rest with
      | '=' :: value => value
      | value => value
    (String.ofList ['-', letter], if rest.isEmpty then none else some (String.ofList value))
  | _ => (argument, none)

/-- What a list of arguments is cut into. -/
structure Parts where
  options : List Given := []
  positionals : List String := []

/-- Cut arguments into options, as far as they are in `table`, and others.  Where
`stopsAtName` holds, the first argument that is no option ends the list, and it and the
rest are the positionals. -/
def cutArguments (table : List (String × OptionName)) (stopsAtName : Bool) :
    List String → Option Parts
  | [] => some {}
  | "--" :: rest => if stopsAtName then none else some { positionals := rest }
  | argument :: rest =>
    if isOption argument then do
      let (text, inner) := splitOption argument
      let name ← table.lookup text
      if name.isFlag then
        if inner.isSome then none
        else
          let parts ← cutArguments table stopsAtName rest
          some { parts with options := (name, "") :: parts.options }
      else match inner, rest with
        | some value, rest =>
          let parts ← cutArguments table stopsAtName rest
          some { parts with options := (name, value) :: parts.options }
        | none, value :: rest =>
          if isOption value then none
          else
            let parts ← cutArguments table stopsAtName rest
            some { parts with options := (name, value) :: parts.options }
        | none, [] => none
    else if stopsAtName then some { positionals := argument :: rest }
    else do
      let parts ← cutArguments table stopsAtName rest
      some { parts with positionals := argument :: parts.positionals }

/-- Whether no option but those that make a list is repeated. -/
def areSingle : List Given → Bool
  | [] => true
  | (name, _) :: rest => (name.isList || !rest.any (·.1 == name)) && areSingle rest

/-- The value of an option, read; none if it is given but does not read. -/
def value? {α : Type} (options : List Given) (name : OptionName) (read? : String → Option α) :
    Option (Option α) :=
  match options.lookup name with
  | none => some none
  | some text => (read? text).map some

/-- The values of an option that makes a list. -/
def values (options : List Given) (name : OptionName) : List String :=
  (options.filter (·.1 == name)).map (·.2)

/-- Whether a flag is given. -/
def hasFlag (options : List Given) (name : OptionName) : Bool := options.any (·.1 == name)

/-- A path, which must not be empty. -/
def path? (text : String) : Option Path := if text.isEmpty then none else some ⟨text⟩

/-- The options of a search. -/
def searchArguments? (options : List Given) : Option SearchArguments := do
  return {
    maxFiles := ← value? options .maxFiles Number.integer?
    tests := hasFlag options .tests
    docs := hasFlag options .docs
    languages := values options .lang
    excludes := values options .exclude
    context := ← value? options .context Number.integer?
    timeoutMs := ← value? options .timeoutMs Config.natural64?
    maxChars := (← value? options .maxChars Config.natural64?).getD 24000
    kind := ← value? options .kind SearchKind.ofText?
    maxHops := ← value? options .maxHops Number.integer? }

/-- The command of a name with its options and its other arguments. -/
def command? (name : String) (options : List Given) (positionals : List String) :
    Option Command := do
  let arguments ← searchArguments? options
  match name, positionals with
  | "search", [query] => some (.search query arguments)
  | "semantic", [query] => some (.semantic query arguments)
  | "usages", [identifier] => some (.usages identifier arguments)
  | "related", [path] => some (.related path arguments)
  | "analyze", [path] => some (.analyze path)
  | "config", [] => some .config
  | _, _ => none

/-- The root: from an option, or else from the environment. -/
def root? (env : Environment) (options : List Given) : Option (Option Path) := do
  match ← value? options .root path? with
  | some root => some (some root)
  | none =>
    match env.lookup "CODE_CONTEXT_WORKSPACE" with
    | some text => (path? text).map some
    | none => some none

/-- Read the arguments of the program.  The environment counts on either side of the command
where no option stands, so a variable that is no path is refused there. -/
def Invocation.ofArguments? (env : Environment) (arguments : List String) : Option Invocation := do
  let before ← cutArguments commonOptions true arguments
  let name :: rest := before.positionals | none
  let table ← ownOptions? name
  let behind ← cutArguments (commonOptions ++ table) false rest
  guard (areSingle before.options && areSingle behind.options)
  let _ ← root? env before.options
  let _ ← root? env behind.options
  let options := behind.options ++ before.options
  return {
    root := ← root? env options
    configFile := ← value? options .config path?
    json := hasFlag options .json
    command := ← command? name behind.options behind.positionals }

end SourceRetrieval.Cli
