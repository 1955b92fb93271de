import ScriptBridge.Files.Path
import ScriptBridge.Table
import ScriptBridge.Files.SystemError

/-!
# File systems

A file system is a tree of directories, files, symbolic links and sinks, with a working directory. A path is resolved
from the root or from the working directory, one component after another; links are followed on the way, at most forty
of them. All operations answer from the tree, and those that write give the tree afterwards.
-/
namespace ScriptBridge

inductive Entry where
  | file (content : ByteArray) (readable : Bool := true)
  /-- The entries stand in the order in which the directory lists them. -/
  | directory (entries : List (FileName × Entry)) (readable : Bool := true)
  | link (target : Path)
  /-- A device that is always empty and swallows what is written to it. -/
  | sink
  deriving Inhabited

namespace Entry

def isDirectory : Entry → Bool
  | .directory .. => true
  | _ => false

def isFile : Entry → Bool
  | .file .. => true
  | _ => false

def child? (entry : Entry) (name : FileName) : Option Entry :=
  match entry with
  | .directory entries _ => Table.get? name entries
  | _ => none

/-- The entry below a directory that a chain of names leads to. No links are followed. -/
def descend? (entry : Entry) : List FileName → Option Entry
  | [] => some entry
  | name :: rest => (entry.child? name).bind (·.descend? rest)

/-- Puts an entry under a name, in place of an earlier one or behind the others. -/
def put (name : FileName) (value : Entry) : List (FileName × Entry) → List (FileName × Entry)
  | [] => [(name, value)]
  | (other, previous) :: rest =>
    if name = other then (name, value) :: rest else (other, previous) :: put name value rest

/-- Puts an entry where a chain of names leads; the directories on the way exist. -/
def store (value : Entry) : Entry → List FileName → Entry
  | _, [] => value
  | .directory entries readable, name :: rest =>
    .directory (put name (store value ((Table.get? name entries).getD (.directory [] true)) rest) entries) readable
  | entry, _ :: _ => entry

mutual

/-- The files at and below an entry, with their places; links are not followed. -/
def contents (here : List FileName) : Entry → List (List FileName × ByteArray)
  | .file content _ => [(here, content)]
  | .directory entries _ => contentsOfEntries here entries
  | .link _ => []
  | .sink => []

def contentsOfEntries (here : List FileName) : List (FileName × Entry) → List (List FileName × ByteArray)
  | [] => []
  | (name, entry) :: rest => entry.contents (here ++ [name]) ++ contentsOfEntries here rest

end

mutual

/-- The places of the directories at and below an entry, each before those below it; links are not followed. -/
def directories (here : List FileName) : Entry → List (List FileName)
  | .directory entries _ => here :: directoriesOfEntries here entries
  | _ => []

def directoriesOfEntries (here : List FileName) : List (FileName × Entry) → List (List FileName)
  | [] => []
  | (name, entry) :: rest => entry.directories (here ++ [name]) ++ directoriesOfEntries here rest

end

end Entry

/-- A tree of entries with a working directory, given by the names from the root to it. -/
structure FileSystem where
  root : Entry
  workingDirectory : List FileName := []

namespace FileSystem

/-- A place in the tree, by the names from the root, with no link on the way. -/
abbrev Location := List FileName

inductive Target where
  | found (location : Location) (entry : Entry)
  /-- Everything but the last name exists, and the place is a directory. -/
  | missing (directory : Location) (name : FileName)

def entryAt? (fs : FileSystem) (location : Location) : Option Entry := fs.root.descend? location

def maxLinks : Nat := 40

def maxName : Nat := 255

/-- The number of bytes from which on a path is too long. -/
def maxPath : Nat := 4096

inductive Purpose where
  /-- To look at what it leads to. -/
  | visit
  /-- To make something under the last name, which is not followed when it is a link. -/
  | claim
  /-- To open a file, or to make one. The name of a file has no slash behind it. -/
  | create
  deriving DecidableEq, Repr

/-- The names of a path, with an empty one for a slash at the end. Where an empty name or a dot is stepped on, there has
to be a directory. -/
def steps (path : Path) : List FileName :=
  let names := (Path.pieces path.bytes).filter (· ≠ [])
  if path.bytes.getLast? = some Path.separator then names ++ [[]] else names

/-- Walks from a place along names. Where a name on the way is a link, `follow` goes on from where the link leads. -/
def walkNames (fs : FileSystem) (purpose : Purpose) (follow : Location → List FileName → Except SystemError Target)
    (here : Location) : List FileName → Except SystemError Target
  | [] =>
    match fs.entryAt? here with
    | some entry => .ok (.found here entry)
    | none => .error .notFound
  | name :: rest =>
    match fs.entryAt? here with
    | none => .error .notFound
    | some entry =>
      if !entry.isDirectory then .error .notADirectory
      else if name = [] ∨ name = [Path.dot] then fs.walkNames purpose follow here rest
      else if name = [Path.dot, Path.dot] then fs.walkNames purpose follow here.dropLast rest
      else if purpose = .create ∧ rest = [[]] then .error .isADirectory
      else if maxName < name.length then .error .nameTooLong
      else
        match entry.child? name with
        | none => if rest.isEmpty then .ok (.missing here name) else .error .notFound
        | some (.link target) =>
          if rest.isEmpty && purpose = .claim then .ok (.found (here ++ [name]) (.link target))
          else follow (if target.isAbsolute then [] else here) (steps target ++ rest)
        | some _ => fs.walkNames purpose follow (here ++ [name]) rest

/-- Walks from a place along names, and follows so many links on the way. -/
def walk (fs : FileSystem) (purpose : Purpose) : Nat → Location → List FileName → Except SystemError Target
  | 0 => fs.walkNames purpose fun _ _ => .error .linkLoop
  | left + 1 => fs.walkNames purpose (fs.walk purpose left)

def resolve (fs : FileSystem) (path : Path) (purpose : Purpose := .visit) : Except SystemError Target :=
  if path.bytes.contains 0 then .error .nulByte
  else if path.bytes = [] then .error .notFound
  else if maxPath ≤ path.bytes.length then .error .nameTooLong
  else fs.walk purpose maxLinks (if path.isAbsolute then [] else fs.workingDirectory) (steps path)

def lookup (fs : FileSystem) (path : Path) : Except SystemError (Location × Entry) := do
  match ← fs.resolve path with
  | .found location entry => pure (location, entry)
  | .missing .. => .error .notFound

def entry? (fs : FileSystem) (path : Path) : Option Entry := (fs.lookup path).toOption.map Prod.snd

def exists? (fs : FileSystem) (path : Path) : Bool := (fs.entry? path).isSome

def isDirectory (fs : FileSystem) (path : Path) : Bool := (fs.entry? path).any Entry.isDirectory

def isFile (fs : FileSystem) (path : Path) : Bool := (fs.entry? path).any Entry.isFile

def pathOf (location : Location) : Path := Path.ofComponents (.root :: location.map .name)

/-- The path from the root, without links, to where a path leads. -/
def canonicalize (fs : FileSystem) (path : Path) : Except SystemError Path := do
  let (location, _) ← fs.lookup path
  pure (pathOf location)

def read (fs : FileSystem) (path : Path) : Except SystemError ByteArray := do
  match (← fs.lookup path).2 with
  | .file content readable => if readable then pure content else .error .permissionDenied
  | .sink => pure .empty
  | .directory .. => .error .isADirectory
  | .link _ => .error .linkLoop

def readText (fs : FileSystem) (path : Path) : Except SystemError String := do
  let content ← fs.read path
  match String.fromUTF8? content with
  | some text => pure text
  | none => .error .invalidText

/-- The names in a directory, in the order in which it lists them. -/
def list (fs : FileSystem) (path : Path) : Except SystemError (List FileName) := do
  match (← fs.lookup path).2 with
  | .directory entries readable =>
    if readable then pure (entries.map Prod.fst) else .error .permissionDenied
  | _ => .error .notADirectory

def store (fs : FileSystem) (location : Location) (entry : Entry) : FileSystem :=
  { fs with root := Entry.store entry fs.root location }

def trimEnd (path : Path) : Path :=
  ⟨(path.bytes.reverse.dropWhile (· = Path.separator)).reverse⟩

/-- Makes one directory. A link under the name is not followed. -/
def makeDirectory (fs : FileSystem) (path : Path) : Except SystemError FileSystem := do
  let trimmed := trimEnd path
  match ← fs.resolve (if trimmed.bytes = [] then path else trimmed) .claim with
  | .found .. => .error .alreadyExists
  | .missing directory name => pure (fs.store (directory ++ [name]) (.directory [] true))

/-- Makes a directory and those above it that are missing, given the longest of its ancestors first. What was made on
the way stays when a later step fails. -/
def makeChain (fs : FileSystem) : List Path → Except SystemError Unit × FileSystem
  | [] => (.ok (), fs)
  | path :: ancestors =>
    match fs.makeDirectory path with
    | .ok after => (.ok (), after)
    | .error .notFound =>
      match fs.makeChain ancestors with
      | (.error cause, above) => (.error cause, above)
      | (.ok (), above) =>
        match above.makeDirectory path with
        | .ok after => (.ok (), after)
        | .error cause => (if above.isDirectory path then .ok () else .error cause, above)
    | .error cause => (if fs.isDirectory path then .ok () else .error cause, fs)

/-- The path and its ancestors, the longest first; the empty path is none. -/
def ancestors (path : Path) : List Path :=
  let rec go : Nat → Path → List Path
    | 0, _ => []
    | count + 1, current =>
      if current.bytes = [] then []
      else current :: ((current.parent?).map (go count)).getD []
  go (path.components.length + 1) path

def makeDirectories (fs : FileSystem) (path : Path) : Except SystemError Unit × FileSystem :=
  fs.makeChain (ancestors path)

/-- Opens a file for writing, and makes it when it is missing: the place and what is there now. -/
def openForWriting (fs : FileSystem) (path : Path) : Except SystemError (Location × Entry) := do
  match ← fs.resolve path .create with
  | .found location entry => if entry.isDirectory then .error .isADirectory else pure (location, entry)
  | .missing directory name => pure (directory ++ [name], .file .empty true)

/-- Writes a file, in place of what it held. Who may read it stays as it was. -/
def write (fs : FileSystem) (path : Path) (content : ByteArray) : Except SystemError FileSystem := do
  let (location, entry) ← fs.openForWriting path
  match entry with
  | .file _ readable => pure (fs.store location (.file content readable))
  | _ => pure fs

def append (fs : FileSystem) (path : Path) (content : ByteArray) : Except SystemError FileSystem := do
  let (location, entry) ← fs.openForWriting path
  match entry with
  | .file before readable => pure (fs.store location (.file (before ++ content) readable))
  | _ => pure fs

/-- The directories that were none in an earlier state of the tree. -/
def directoriesSince (fs before : FileSystem) : List Location :=
  (fs.root.directories []).filter fun location => !(before.entryAt? location).any Entry.isDirectory

/-- The files whose content is not what it was in an earlier state of the tree, with the content. -/
def changedSince (fs before : FileSystem) : List (Location × ByteArray) :=
  (fs.root.contents []).filter fun (location, content) =>
    match before.entryAt? location with
    | some (.file earlier _) => earlier != content
    | _ => true

end FileSystem
end ScriptBridge
