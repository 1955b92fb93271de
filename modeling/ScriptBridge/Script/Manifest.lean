import ScriptBridge.ScriptState
import ScriptBridge.Files.FileSystem
import ScriptBridge.Toml.Decoding
import ScriptBridge.Toml.Document

/-!
# Manifests

A manifest is a document that says what a script would register when it is loaded: key bindings, and properties to
observe. Each binding gets a callback that logs its name.
-/
namespace ScriptBridge

structure ManifestBinding where
  key : Option String
  name : Option String
  builtin : Bool
  options : Toml.Entries
  deriving Repr

structure ManifestWatch where
  name : String
  /-- The name of a property format. -/
  format : String
  replyToken : UInt64
  deriving Repr

structure Manifest where
  identity : Option String
  bindings : List ManifestBinding
  observations : List ManifestWatch
  deriving Repr

inductive ManifestError where
  | system (cause : SystemError)
  /-- It is not a document, or does not have the structure. -/
  | malformed
  | unknownFormat (name : String)
  deriving DecidableEq, Repr

def ManifestError.message : ManifestError → String
  | .system cause => "failed to read bindings file: " ++ cause.message
  | .malformed => "failed to parse bindings file"
  | .unknownFormat name => "unknown property format " ++ Text.quoted name

def ManifestBinding.decode? (value : Toml.Value) : Option ManifestBinding := do
  let fields ← value.fields?
  let key ← fields.optional 0 "key" Toml.Value.string?
  let name ← fields.optional 1 "name" Toml.Value.string?
  let builtin ← fields.withDefault 2 "builtin" Toml.Value.boolean? false
  let options ← fields.withDefault 3 "options" Toml.Value.entries? []
  some ⟨key, name, builtin, options⟩

def ManifestWatch.decode? (value : Toml.Value) : Option ManifestWatch := do
  let fields ← value.fields?
  let name ← fields.required 0 "name" Toml.Value.string?
  let format ← fields.required 1 "format" Toml.Value.string?
  let replyToken ← fields.withDefault 2 "reply_token" Toml.Value.natural? 0
  some ⟨name, format, replyToken⟩

def ManifestBinding.request (entry : ManifestBinding) : BindingRequest :=
  { key := entry.key
    name := entry.name
    builtin := entry.builtin
    options := Toml.nodesOfEntries entry.options }

namespace Manifest

def decode? (document : Toml.Entries) : Option Manifest := do
  let fields := Toml.Fields.named document
  let identity ← fields.optional 0 "identity" Toml.Value.string?
  let bindings ← fields.withDefault 1 "binding" (Toml.Value.list? ManifestBinding.decode?) []
  let observations ← fields.withDefault 2 "observe" (Toml.Value.list? ManifestWatch.decode?) []
  some ⟨identity, bindings, observations⟩

def parse (text : String) : Except ManifestError Manifest :=
  match (Toml.read? text).bind decode? with
  | some manifest => .ok manifest
  | none => .error .malformed

def load (files : FileSystem) (path : Path) : Except ManifestError Manifest :=
  match files.readText path with
  | .ok text => parse text
  | .error cause => .error (.system cause)

/-- The identity that the manifest gives, or else the one that its path gives. -/
def identityFor? (manifest : Manifest) (path : Path) : Option ScriptId :=
  match manifest.identity with
  | some name => some ⟨name⟩
  | none => ScriptId.ofPath? path

/-- The callback of a binding: it logs that it fired. -/
def firedCallback (access : HostAccess) (name : String) : Callback :=
  { body := fun _ => do
      access.log .info ("fired " ++ name)
      pure (.ok ()) }

def registerBinding (script : ScriptState) (entry : ManifestBinding) : ScriptState :=
  script.register entry.request
    (some (firedCallback script.access (script.keymap.effectiveName entry.request)))

/-- Registers the observations up to the first one with an unknown format. -/
def registerObservations (script : ScriptState) :
    List ManifestWatch → ScriptState × Except ManifestError Unit
  | [] => (script, .ok ())
  | entry :: rest =>
    match PropertyFormat.ofName? entry.format with
    | some format => registerObservations (script.observe entry.name format entry.replyToken) rest
    | none => (script, .error (.unknownFormat entry.format))

/-- Registers the observations and, if all of them could be registered, the bindings. -/
def register (manifest : Manifest) (script : ScriptState) : ScriptState × Except ManifestError Unit :=
  match registerObservations script manifest.observations with
  | (observing, .ok ()) => (manifest.bindings.foldl registerBinding observing, .ok ())
  | (observing, .error error) => (observing, .error error)

end Manifest
end ScriptBridge
