import ScriptBridge.Cli.Run

/-!
# The program

The outer layer of the command line: it copies the files that a run can look at into a tree, runs the program on the
tree, makes the directories and writes the files that changed, and prints.
-/
namespace ScriptBridge.Cli

/-- The environment variables that matter. -/
def variableNames : List String := ["HOME", "XDG_CONFIG_HOME", "XDG_DATA_HOME", "XDG_CACHE_HOME", "RUST_LOG"]

def readEnvironment : IO Environment := do
  let found ← variableNames.filterMapM fun name => do
    let value ← IO.getEnv name
    pure (value.map fun text => (name, text))
  pure (Table.ofList found)

/-- The names in a directory; nothing when it is none. -/
def readNames (path : String) : IO (Option (List String)) :=
  try
    let resolved ← IO.FS.realPath path
    let entries ← resolved.readDir
    pure (some (entries.toList.map (·.fileName)))
  catch _ => pure none

/-- The content of a file; nothing when it cannot be read. -/
def readContent (path : String) : IO (Option ByteArray) :=
  try
    let content ← IO.FS.readBinFile path
    pure (some content)
  catch _ => pure none

/-- What lies at a path, with what lies below it down to a depth. -/
def scan : Nat → String → IO (Option Entry)
  | depth, path => do
    match ← readNames path with
    | some names =>
      match depth with
      | 0 => pure (some (.directory [] true))
      | depth + 1 => do
        let entries ← names.filterMapM fun name => do
          let entry ← scan depth (path ++ "/" ++ name)
          pure (entry.map fun found => (Utf8.encode name, found))
        pure (some (.directory entries true))
    | none => do
      let content ← readContent path
      pure (content.map fun bytes => .file bytes true)

def locate (files : FileSystem) (path : Path) : FileSystem.Location :=
  let names := (Path.pieces path.bytes).filter fun name => name ≠ [] ∧ name ≠ [Path.dot]
  names.foldl (fun here name => if name = [Path.dot, Path.dot] then here.dropLast else here ++ [name])
    (if path.isAbsolute then [] else files.workingDirectory)

/-- Copies what lies on the way to a place, and at the place itself down to a depth. -/
def copy (depth : Nat) (files : FileSystem) (location : FileSystem.Location) : IO FileSystem :=
  (List.range location.length).foldlM (fun files index => do
    let here := location.take (index + 1)
    if (files.entryAt? here).isSome && index + 1 < location.length then pure files
    else
      let entry ← scan (if index + 1 = location.length then depth else 0) (FileSystem.pathOf here).display
      pure ((entry.map (files.store here)).getD files)) files

def copyPath (depth : Nat) (files : FileSystem) (path : Path) : IO FileSystem := copy depth files (locate files path)

/-- The paths that a run with these settings can look at, with the depth to which it does. -/
def wanted (around : Surroundings) (arguments : Arguments) (settings : Settings) : List (Path × Nat) :=
  (around.directories?.map fun directories => (logFile directories, 0)).toList ++
    match arguments.command with
    | .paths | .init _ => []
    | .scripts =>
      (settings.scripting.effectiveDirectory around.environment, 2) :: settings.scripting.scripts.map (·, 1)
    | .sections file | .dispatch file _ _ => [(file, 0)]

def survey (invocation : Invocation) : IO Surroundings := do
  let environment ← readEnvironment
  let directory ← IO.currentDir
  let start : FileSystem :=
    { root := .directory [] true
      workingDirectory := (Path.pieces (Utf8.encode directory.toString)).filter (· ≠ []) }
  let here ← copy 0 start start.workingDirectory
  match invocation with
  | .run arguments => do
    let around : Surroundings := { files := here, environment := environment }
    let configured ← match around.settingsPath? arguments with
      | some path => copyPath 0 here path
      | none => pure here
    let around := { around with files := configured }
    let settings := (around.settings arguments).toOption.getD {}
    let files ← (wanted around arguments settings).foldlM (fun files (path, depth) => copyPath depth files path) configured
    pure { around with files := files }
  | _ => pure { files := here, environment := environment }

/-- Makes the directories that are new, and writes the files that changed. -/
def commit (before after : FileSystem) : IO Unit := do
  (after.directoriesSince before).forM fun location => IO.FS.createDirAll (FileSystem.pathOf location).display
  (after.changedSince before).forM fun (location, content) =>
    IO.FS.writeBinFile (FileSystem.pathOf location).display content

end ScriptBridge.Cli

open ScriptBridge.Cli in
def main (arguments : List String) : IO UInt32 := do
  let around ← survey (read arguments)
  let exit := run around arguments
  commit around.files exit.files
  exit.printed.forM IO.println
  if let some error := exit.error then IO.eprintln ("Error: " ++ error)
  if exit.code = 2 then IO.eprintln "Usage: mpvscript [-c <CONFIG>] <paths|init|scripts|sections|dispatch>"
  pure exit.code.toUInt32
