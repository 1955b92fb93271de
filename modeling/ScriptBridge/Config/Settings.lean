import ScriptBridge.Files.AppDirectories

/-!
# Settings

What a user can configure: which scripts are loaded and how they are served, and the log of the program.
-/
namespace ScriptBridge

/-- The name of the application, under which its files lie. -/
def appName : String := "mpvscript"

structure ScriptingSettings where
  /-- Whether scripts are loaded at all. -/
  enabled : Bool := true
  /-- Scripts that are loaded ahead of those in the script directory. -/
  scripts : List Path := []
  scriptDirectory : Option Path := none
  /-- Ask the host for client messages when a script has bindings. -/
  enableClientMessages : Bool := true
  /-- The level of host messages that scripts subscribe to. -/
  messageLevel : Option String := none
  deriving DecidableEq, Repr

/-- The directory that is searched for scripts: the configured one, or the usual one. -/
def ScriptingSettings.effectiveDirectory (settings : ScriptingSettings) (environment : Environment) : Path :=
  settings.scriptDirectory.getD <|
    match AppDirectories.ofName? environment appName with
    | some directories => directories.data.join (.ofString "scripts")
    | none => .ofString ".scripts"

structure LoggingSettings where
  /-- Also log to a file. -/
  file : Bool := false
  filter : Option String := none
  deriving DecidableEq, Repr

def LoggingSettings.effectiveFilter (settings : LoggingSettings) : String := settings.filter.getD "info"

structure Settings where
  scripting : ScriptingSettings := {}
  logging : LoggingSettings := {}
  deriving DecidableEq, Repr

def Settings.usualPath? (environment : Environment) : Option Path :=
  (AppDirectories.ofName? environment appName).map fun directories =>
    directories.config.join (.ofString "config.toml")

end ScriptBridge
