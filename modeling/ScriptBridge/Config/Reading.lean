import ScriptBridge.Config.Settings
import ScriptBridge.Files.FileSystem
import ScriptBridge.Toml.Decoding
import ScriptBridge.Toml.Document

/-!
# Reading settings

A configuration file may leave out any setting; what it leaves out has its usual value.
-/
namespace ScriptBridge

inductive SettingsError where
  | notFound
  /-- The file is not a document, or a setting has the wrong type. -/
  | malformed
  | unreadable (cause : SystemError)
  deriving DecidableEq, Repr

def SettingsError.message : SettingsError → String
  | .notFound => "Config file not found"
  | .malformed => "Failed to parse config"
  | .unreadable cause => "IO error reading config: " ++ cause.message

def ScriptingSettings.decode? (value : Toml.Value) : Option ScriptingSettings := do
  let fields ← value.fields?
  let enabled ← fields.withDefault 0 "enabled" Toml.Value.boolean? true
  let scripts ← fields.withDefault 1 "scripts" (Toml.Value.list? Toml.Value.path?) []
  let scriptDirectory ← fields.withDefault 2 "script_dir" (·.path?.map some) none
  let enableClientMessages ← fields.withDefault 3 "enable_client_message" Toml.Value.boolean? true
  let messageLevel ← fields.withDefault 4 "message_level" (·.string?.map some) none
  some ⟨enabled, scripts, scriptDirectory, enableClientMessages, messageLevel⟩

def LoggingSettings.decode? (value : Toml.Value) : Option LoggingSettings := do
  let fields ← value.fields?
  let file ← fields.withDefault 0 "file" Toml.Value.boolean? false
  let filter ← fields.withDefault 1 "filter" (·.string?.map some) none
  some ⟨file, filter⟩

namespace Settings

def decode? (document : Toml.Entries) : Option Settings := do
  let fields := Toml.Fields.named document
  let scripting ← fields.withDefault 0 "scripting" ScriptingSettings.decode? {}
  let logging ← fields.withDefault 1 "logging" LoggingSettings.decode? {}
  some ⟨scripting, logging⟩

def parse? (text : String) : Option Settings := (Toml.read? text).bind decode?

def load (files : FileSystem) (path : Path) : Except SettingsError Settings :=
  if !files.exists? path then .error .notFound
  else
    match files.readText path with
    | .error cause => .error (.unreadable cause)
    | .ok text =>
      match parse? text with
      | some settings => .ok settings
      | none => .error .malformed

def loadUsual (files : FileSystem) (environment : Environment) : Except SettingsError Settings :=
  match usualPath? environment with
  | some path => load files path
  | none => .error .notFound

end Settings
end ScriptBridge
