import ScriptBridge.Error
import ScriptBridge.Files.FileSystem

/-!
# Resolving scripts

A script is a file, or a directory with an entry file. Its identity comes from the path under which it was requested,
its text from the file that the path leads to.
-/
namespace ScriptBridge

/-- The name of the file that stands for a script directory. -/
def entryFile : Path := .ofString "main.py"

def scriptExtension : FileName := Utf8.encode "py"

structure ResolvedScript where
  /-- The path under which the script was requested. -/
  requested : Path
  /-- The file that was read. -/
  file : Path
  identity : ScriptId
  text : String
  deriving Repr

namespace ResolvedScript

def identityOf (path : Path) : Except BridgeError ScriptId :=
  match ScriptId.ofPath? path with
  | some identity => .ok identity
  | none => .error (.noIdentity path)

/-- The file that a path without links leads to, or the entry file of the directory that it leads to. -/
def fileAt (files : FileSystem) (resolved : Path) : Path :=
  if files.isDirectory resolved then resolved.join entryFile else resolved

def resolve (files : FileSystem) (path : Path) : Except BridgeError Path :=
  match files.canonicalize path with
  | .error .notFound => .error (.scriptNotFound path)
  | .error cause => .error (.system cause)
  | .ok resolved =>
    let file := fileAt files resolved
    if files.isFile file then .ok file else .error (.scriptNotFound file)

def read (files : FileSystem) (path : Path) : Except BridgeError ResolvedScript := do
  let identity ← identityOf path
  let file ← resolve files path
  match files.readText file with
  | .ok text => pure ⟨path, file, identity, text⟩
  | .error cause => .error (.system cause)

end ResolvedScript

namespace FileSystem

/-- Whether a path looks like a script: a directory with an entry file, or anything else with the extension. -/
def offersScript (files : FileSystem) (path : Path) : Bool :=
  if files.isDirectory path then files.isFile (path.join entryFile)
  else path.extension? = some scriptExtension

/-- The scripts directly in a directory, in the order of paths. A directory that cannot be listed has none. -/
def scriptsIn (files : FileSystem) (directory : Path) : List Path :=
  match files.list directory with
  | .error _ => []
  | .ok names =>
    let paths := names.map fun name => directory.join ⟨name⟩
    (paths.filter files.offersScript).mergeSort fun a b => a.compareTo b != .gt

end FileSystem
end ScriptBridge
