import ScriptBridge.Config.Settings
import ScriptBridge.Routing
import ScriptBridge.Script.Resolved

/-!
# Loaded scripts

The scripts that run against one host, in the order in which they were loaded. Loading a script gives it a fresh state,
lets it register what it wants there, and brings that to the host; a script that cannot be loaded leaves the others as they
are. Every event goes to every script, and each answers for itself.
-/
namespace ScriptBridge

structure LoadedScript where
  /-- The path under which it was loaded. -/
  path : Path
  state : ScriptState

/-- What a script does when it is loaded: it registers what it wants in its state, or fails. -/
abbrev OnLoad := ScriptState → Program (Except ScriptError ScriptState)

structure ScriptSet where
  settings : ScriptingSettings
  scripts : List LoadedScript := []

namespace ScriptSet

/-- What has to hold before anything of a script runs: its path gives an identity and leads to a file. -/
def vet (files : FileSystem) (path : Path) : Except BridgeError ScriptId := do
  let identity ← ResolvedScript.identityOf path
  let _ ← ResolvedScript.resolve files path
  pure identity

/-- Subscribes a script to host messages, if a level is configured. A refusal does not matter. -/
def subscribe (settings : ScriptingSettings) (script : ScriptState) : Program Unit :=
  match settings.messageLevel with
  | some level => do
    let _ ← script.access.enableMessages level
    pure ()
  | none => pure ()

/-- Starts a script that was vetted. Gives its state once everything it registered is with the host. -/
def start (settings : ScriptingSettings) (identity : ScriptId) (onLoad : OnLoad) :
    Program (Except BridgeError ScriptState) := do
  let script := ScriptState.fresh identity
  subscribe settings script
  let outcome ← onLoad script
  match outcome with
  | .error cause => pure (.error (.scriptLoad identity cause))
  | .ok registered => do
    let _ ← registered.submit settings.enableClientMessages
    pure (.ok registered)

def load (set : ScriptSet) (files : FileSystem) (path : Path) (onLoad : OnLoad) :
    Program (Except BridgeError ScriptId × ScriptSet) :=
  match vet files path with
  | .error error => pure (.error error, set)
  | .ok identity => do
    let outcome ← start set.settings identity onLoad
    match outcome with
    | .error error => pure (.error error, set)
    | .ok script => pure (.ok identity, { set with scripts := set.scripts ++ [⟨path, script⟩] })

/-- Adds a path behind others, unless one with the same components is there already. -/
def addPath (paths : List Path) (path : Path) : List Path :=
  if paths.any (·.same path) then paths else paths ++ [path]

/-- The paths that the settings ask for: the explicit ones, and then those found in the script directory. -/
def wantedPaths (set : ScriptSet) (files : FileSystem) (environment : Environment) : List Path :=
  (files.scriptsIn (set.settings.effectiveDirectory environment)).foldl addPath set.settings.scripts

/-- Loads the scripts at the given paths, one after another. Gives the paths that failed and why. -/
def loadAll (set : ScriptSet) (files : FileSystem) (onLoad : Path → OnLoad) :
    List Path → Program (List (Path × BridgeError) × ScriptSet)
  | [] => pure ([], set)
  | path :: rest => do
    let (outcome, set) ← set.load files path (onLoad path)
    let (failures, set) ← set.loadAll files onLoad rest
    match outcome with
    | .ok _ => pure (failures, set)
    | .error error => pure ((path, error) :: failures, set)

/-- Loads every configured script, unless scripting is turned off. -/
def loadWanted (set : ScriptSet) (files : FileSystem) (environment : Environment) (onLoad : Path → OnLoad) :
    Program (List (Path × BridgeError) × ScriptSet) :=
  if set.settings.enabled then set.loadAll files onLoad (set.wantedPaths files environment)
  else pure ([], set)

/-- The configured paths whose scripts are started when they are loaded, whether they then fail or not. -/
def startablePaths (set : ScriptSet) (files : FileSystem) (environment : Environment) : List Path :=
  if set.settings.enabled then (set.wantedPaths files environment).filter fun path => (vet files path).isOk
  else []

def answerAll (event : Event) : List LoadedScript → Program (List (ScriptId × EventAnswer) × List LoadedScript)
  | [] => pure ([], [])
  | loaded :: rest => do
    let (answer, state) ← loaded.state.answer event
    let (answers, scripts) ← answerAll event rest
    pure ((state.identity, answer) :: answers, { loaded with state := state } :: scripts)

def answerEvent (set : ScriptSet) (event : Event) :
    Program (List (ScriptId × EventAnswer) × ScriptSet) := do
  let (answers, scripts) ← answerAll event set.scripts
  pure (answers, { set with scripts := scripts })

/-- The states of the scripts, as they go to a bridge. -/
def states (set : ScriptSet) : List ScriptState := set.scripts.map (·.state)

/-- The first script with an identity. -/
def state? (set : ScriptSet) (identity : ScriptId) : Option ScriptState :=
  set.states.find? (·.identity = identity)

end ScriptSet
end ScriptBridge
