import ScriptBridge.Config.Settings
import ScriptBridge.Files.FileSystem
import ScriptBridge.Toml.Writing

/-!
# Writing settings

Settings are written in full, except that an option without a value has no line. Paths are written as text, so a path
that is not UTF-8 cannot be written.
-/
namespace ScriptBridge

inductive SaveError where
  | pathNotText
  | system (cause : SystemError)
  deriving DecidableEq, Repr

def SaveError.message : SaveError → String
  | .pathNotText => "path contains invalid UTF-8 characters"
  | .system cause => cause.message

def settingLine (name : String) (value : List Char) : List Char := name.toList ++ [' ', '=', ' '] ++ value ++ ['\n']

/-- The line of a setting that may have no value. -/
def optionalLine (name : String) (value : Option String) : List Char :=
  (value.map fun text => settingLine name (Toml.stringText text.toList)).getD []

def Path.text? (path : Path) : Option String := Utf8.decode? path.bytes

def ScriptingSettings.text? (settings : ScriptingSettings) : Option (List Char) := do
  let scripts ← settings.scripts.mapM Path.text?
  let directory ← match settings.scriptDirectory with
    | some path => path.text?.map some
    | none => some none
  some <| "[scripting]\n".toList ++ settingLine "enabled" (Toml.booleanText settings.enabled) ++
    settingLine "scripts" (Toml.stringsText (scripts.map String.toList)) ++
    optionalLine "script_dir" directory ++
    settingLine "enable_client_message" (Toml.booleanText settings.enableClientMessages) ++
    optionalLine "message_level" settings.messageLevel

def LoggingSettings.text (settings : LoggingSettings) : List Char :=
  "[logging]\n".toList ++ settingLine "file" (Toml.booleanText settings.file) ++
    optionalLine "filter" settings.filter

namespace Settings

/-- The settings as a document; nothing when a path is not UTF-8. -/
def text? (settings : Settings) : Option String :=
  settings.scripting.text?.map fun scripting =>
    String.ofList (scripting ++ '\n' :: settings.logging.text)

/-- The directories above a path, made where they are missing. -/
def makeParents (files : FileSystem) (path : Path) : Except SystemError Unit × FileSystem :=
  match path.parent? with
  | some parent => files.makeDirectories parent
  | none => (.ok (), files)

/-- Saves settings to a file. Its directories are made first, and stay when the settings cannot be written. -/
def save (settings : Settings) (files : FileSystem) (path : Path) : Except SaveError Unit × FileSystem :=
  match makeParents files path with
  | (.error cause, prepared) => (.error (.system cause), prepared)
  | (.ok (), prepared) =>
    match settings.text? with
    | none => (.error .pathNotText, prepared)
    | some text =>
      match prepared.write path text.toUTF8 with
      | .error cause => (.error (.system cause), prepared)
      | .ok after => (.ok (), after)

end Settings
end ScriptBridge
