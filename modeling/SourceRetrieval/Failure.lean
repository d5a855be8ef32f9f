/-
What can go wrong, and how it is told.

* `WorkspaceFailure` and `ConfigFailure` stop an engine from being made;
* `FileFailure` concerns a single file and is never the end of a search;
* `SystemFailure` is what the file system or another helper reports;
* `Failure.message` is the whole text that a user sees.
-/

namespace SourceRetrieval

/-- A workspace that cannot be used. -/
inductive WorkspaceFailure where
  | notConfigured
  | rootNotFound (root : String)
  | notADirectory (root : String)
  deriving DecidableEq, Inhabited, Repr

/-- A configuration that cannot be used. -/
inductive ConfigFailure where
  | loadFailed (reason : String)
  | parseFailed (reason : String)
  | invalidValue (key reason : String)
  | saveFailed (reason : String)
  | fileNotFound (path : String)
  deriving DecidableEq, Inhabited, Repr

/-- A file that cannot be used. -/
inductive FileFailure where
  | notFound (file : String)
  | unreadable (file reason : String)
  | tooLarge (size limit : Nat)
  | binary (file : String)
  | invalidUtf8 (file : String)
  deriving DecidableEq, Inhabited, Repr

/-- Why the file system refuses to do something. -/
inductive AccessKind where
  | notFound
  | permissionDenied
  | other
  deriving DecidableEq, Inhabited, Repr

/-- A refusal of the file system. -/
structure AccessFailure where
  kind : AccessKind
  text : String
  deriving DecidableEq, Inhabited, Repr

/-- Anything that can go wrong. -/
inductive Failure where
  | workspace (failure : WorkspaceFailure)
  | config (failure : ConfigFailure)
  | file (failure : FileFailure)
  | pattern (text : String)
  | task (text : String)
  | access (text : String)
  | other (text : String)
  deriving DecidableEq, Inhabited, Repr

namespace WorkspaceFailure

/-- What a user is told. -/
def message : WorkspaceFailure → String
  | notConfigured => "No workspace root configured"
  | rootNotFound root => "Workspace root does not exist: " ++ root
  | notADirectory root => "Workspace root is not a directory: " ++ root

end WorkspaceFailure

namespace ConfigFailure

/-- What a user is told. -/
def message : ConfigFailure → String
  | loadFailed reason => "Failed to load configuration file: " ++ reason
  | parseFailed reason => "Failed to parse configuration: " ++ reason
  | invalidValue key reason => "Invalid configuration value for '" ++ key ++ "': " ++ reason
  | saveFailed reason => "Failed to save configuration: " ++ reason
  | fileNotFound path => "Configuration file not found: " ++ path

end ConfigFailure

namespace FileFailure

/-- What a user is told. -/
def message : FileFailure → String
  | notFound file => "File not found: " ++ file
  | unreadable file reason => "Failed to read file '" ++ file ++ "': " ++ reason
  | tooLarge size limit =>
    "File size exceeds maximum: " ++ toString size ++ " > " ++ toString limit
  | binary file => "File is binary: " ++ file
  | invalidUtf8 file => "File is not valid UTF-8: " ++ file

/-- The failure of a file that the file system refuses. -/
def ofAccess (file : String) (failure : AccessFailure) : FileFailure :=
  if failure.kind = .notFound then notFound file else unreadable file failure.text

end FileFailure

namespace Failure

/-- What a user is told. -/
def message : Failure → String
  | workspace failure => "Workspace error: " ++ failure.message
  | config failure => "Configuration error: " ++ failure.message
  | file failure => "File error: " ++ failure.message
  | pattern text => "Invalid extraction pattern: " ++ text
  | task text => "Worker task failed: " ++ text
  | access text => "IO error: " ++ text
  | other text => text

/-- Whether the caller's configuration is to blame, not the system. -/
def isUserError : Failure → Bool
  | workspace _ => true
  | config (.invalidValue _ _) => true
  | _ => false

end Failure

end SourceRetrieval
