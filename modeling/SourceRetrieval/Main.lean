/-
The program.

* `main` reads the arguments, the environment and the disk, and prints what a
  run of the program comes to.

Design notes: all that a run can see is read before it, so it goes by one state
of the disk.  A link to a file is read as that file, and a link to a directory
as a link, the directory being read where it is.
-/
import SourceRetrieval.Cli.Run
import SourceRetrieval.FileTree.Disk

namespace SourceRetrieval.Cli

/-- The time of the last change of a file, in nanoseconds. -/
def changeTime (data : IO.FS.Metadata) : Nat :=
  (data.modified.sec * 1000000000 + data.modified.nsec.toNat).toNat

/-- What has been read of a disk. -/
structure Snapshot where
  disk : DiskTree := {}
  /-- The names of the directories that have been read. -/
  entered : List (List String) := []

mutual

/-- Read the entries of a directory that is at `names`, unless that is done. -/
partial def enter (limit : Nat) (names : List String) (entries : Array IO.FS.DirEntry)
    (sofar : Snapshot) : IO Snapshot := do
  if sofar.entered.contains names then return sofar
  let sofar := ⟨sofar.disk.makeDirectory names, names :: sofar.entered⟩
  entries.foldlM (addEntry limit names) sofar

/-- Read an entry of the directory at `above`.  The content of a file larger than `limit`
bytes is left out, and so is what cannot be read. -/
partial def addEntry (limit : Nat) (above : List String) (sofar : Snapshot)
    (entry : IO.FS.DirEntry) : IO Snapshot := do
  let names := above ++ [entry.fileName]
  try
    let data ← entry.path.metadata
    match data.type with
    | .dir =>
      let place ← IO.FS.realPath entry.path
      let entries ← place.readDir
      if (← entry.path.symlinkMetadata).type == .dir then enter limit names entries sofar
      else
        let target : Path := ⟨place.toString⟩
        let sofar ← enter limit (DiskTree.namesOf target) entries sofar
        return { sofar with disk := sofar.disk.link (DiskTree.pathOf names) target }
    | .file =>
      let size := data.byteSize.toNat
      let content ← if size ≤ limit then IO.FS.readBinFile entry.path else pure .empty
      let node := DiskNode.file content size (changeTime data)
      return { sofar with disk := sofar.disk.place names node }
    | _ => return sofar
  catch _ => return sofar

end

/-- The directory at a path. -/
def readDirectory (limit : Nat) (path : Path) : IO DiskTree := do
  try
    let place ← IO.FS.realPath path.text
    let snapshot ← enter limit (DiskTree.namesOf path) (← place.readDir) {}
    return snapshot.disk
  catch _ => return {}

/-- Add the file at a path to a tree. -/
def addFile (disk : DiskTree) (path : Path) : IO DiskTree := do
  try
    let place ← IO.FS.realPath path.text
    return disk.write path (← IO.FS.readBinFile place) (changeTime (← place.metadata))
  catch _ => return disk

/-- All that a call can see. -/
def readDisk (around : Surroundings) (invocation : Invocation) : IO DiskTree := do
  let settings := around.here.join (invocation.configFile.getD around.usualConfigFile).text
  match invocation.config around (← addFile {} settings).tree with
  | .error _ => addFile {} settings
  | .ok config =>
    let root := (around.here.join (config.workspace.root.getD around.here).text).normalize
    let disk ← readDirectory (max config.walker.maxFileSize 1048576) root
    let file := (invocation.command.file?.map root.resolveIn).getD root
    [settings, root, file].foldlM addFile disk

/-- The variables of the environment that settings can come from. -/
def readEnvironment : IO Environment :=
  Config.variableNames.filterMapM fun name => do
    return (← IO.getEnv name).map fun value => (name, value)

/-- Where configuration files are kept. -/
def findConfigDirectory : IO Path := do
  match ← IO.getEnv "XDG_CONFIG_HOME" with
  | some directory => if (⟨directory⟩ : Path).isAbsolute then return ⟨directory⟩
  | none => pure ()
  match ← IO.getEnv "HOME" with
  | some home => return (⟨home⟩ : Path).join ".config"
  | none => return ⟨"."⟩

end SourceRetrieval.Cli

open SourceRetrieval Cli in
/-- Run the program. -/
def main (arguments : List String) : IO UInt32 := do
  let start ← IO.monoMsNow
  let around : Surroundings := {
    here := ⟨(← IO.currentDir).toString⟩
    configDirectory := ← findConfigDirectory
    env := ← readEnvironment }
  let disk ← match Invocation.ofArguments? around.env arguments with
    | some invocation => readDisk around invocation
    | none => pure {}
  let outcome := run around disk.tree arguments
  match outcome with
  | .done reply json => IO.print (reply.print json ((← IO.monoMsNow) - start))
  | .failed failure => IO.eprintln ("Error: " ++ failure.message)
  | .misused => IO.eprintln "error: the arguments are not used as they should be"
  return outcome.code.toUInt32
