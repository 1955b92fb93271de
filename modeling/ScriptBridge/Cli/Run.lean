import ScriptBridge.Cli.Arguments
import ScriptBridge.Cli.Reports
import ScriptBridge.Config.Reading
import ScriptBridge.Host.Simulated
import ScriptBridge.Script.Loaded

/-!
# Running commands

A run of the program as a function: from the files and the environment it finds to what it prints and the files it
leaves. Settings are loaded first, then the log is opened, then the command runs; the first of these that fails ends the
run.
-/
namespace ScriptBridge.Cli

def versionLine : String := "mpvscript-cli 0.1.0-beta"

inductive CommandError where
  | text (message : String)
  | settings (cause : SettingsError)
  | manifest (cause : ManifestError)
  | system (cause : SystemError)
  deriving DecidableEq, Repr

def CommandError.details : CommandError → String
  | .text message => Text.quoted message
  | .settings .notFound => "NotFound"
  | .settings .malformed => "ParseError"
  | .settings (.unreadable cause) => "IoError(" ++ Text.quoted cause.message ++ ")"
  | .manifest .malformed => "Parse"
  | .manifest (.system cause) => "Io(" ++ cause.details ++ ")"
  | .manifest (.unknownFormat name) => "UnknownFormat(" ++ Text.quoted name ++ ")"
  | .system cause => cause.details

structure Surroundings where
  files : FileSystem
  environment : Environment := []

structure Outcome where
  files : FileSystem
  printed : List String := []
  journal : List JournalLine := []
  error : Option CommandError := none

structure Exit where
  code : Nat
  files : FileSystem
  printed : List String := []
  /-- The report of the error, if there is one. -/
  error : Option String := none

/-- The configuration that `init` writes. -/
def exampleConfiguration : String :=
  "# mpvscript configuration\n\n[scripting]\nenabled = true\n" ++
  "# Explicit script paths, loaded before the script directory\nscripts = []\n" ++
  "# Request client-message delivery for scripts with bindings\nenable_client_message = true\n\n" ++
  "[logging]\nfile = false\n"

namespace Surroundings

def settingsPath? (around : Surroundings) (arguments : Arguments) : Option Path :=
  arguments.config <|> Settings.usualPath? around.environment

/-- The settings that are used; without a configuration file they are the usual ones. -/
def settings (around : Surroundings) (arguments : Arguments) : Except SettingsError Settings :=
  match around.settingsPath? arguments with
  | none => .ok {}
  | some path =>
    match Settings.load around.files path with
    | .error .notFound => .ok {}
    | result => result

def directories? (around : Surroundings) : Option AppDirectories :=
  AppDirectories.ofName? around.environment appName

end Surroundings

/-- A path, or a word for its absence. -/
def shown (path : Option Path) : String := (path.map Path.display).getD "<unavailable>"

def runPaths (around : Surroundings) (arguments : Arguments) (settings : Settings) : Outcome :=
  { files := around.files
    printed :=
      ["config:  " ++ shown (around.settingsPath? arguments),
       "scripts: " ++ (settings.scripting.effectiveDirectory around.environment).display,
       "logs:    " ++ shown (around.directories?.map logDirectory)] }

def runInit (around : Surroundings) (path : Path) (force : Bool) : Outcome :=
  if around.files.exists? path && !force then
    { files := around.files
      error := some (.text (path.display ++ " already exists, pass --force to overwrite")) }
  else
    match Settings.makeParents around.files path with
    | (.error cause, made) => { files := made, error := some (.system cause) }
    | (.ok (), made) =>
      match made.write path exampleConfiguration.toUTF8 with
      | .error cause => { files := made, error := some (.system cause) }
      | .ok written =>
        { files := written
          printed := ["Config file created at: " ++ path.display]
          journal := [⟨.info, "mpvscript", "Created example config at " ++ path.display⟩] }

/-- A short text, filled up with blanks to twenty characters. -/
def column (text : String) : String := String.ofList (text.toList ++ List.replicate (20 - text.length) ' ')

def scriptLine (files : FileSystem) (path : Path) : String :=
  match ResolvedScript.read files path with
  | .ok source => source.identity.name ++ " " ++ source.file.display
  | .error error => column "-" ++ " " ++ error.message

def runScripts (around : Surroundings) (settings : Settings) : Outcome :=
  let set : ScriptSet := { settings := settings.scripting }
  let paths := set.wantedPaths around.files around.environment
  { files := around.files
    printed := if paths.isEmpty then ["no scripts configured"] else paths.map (scriptLine around.files)
    journal := discoveryJournal around.files (settings.scripting.effectiveDirectory around.environment) ++
      paths.filterMap (readingLine? around.files) }

/-- The state of a script that has registered what a manifest says, and what registering it reports. -/
def registeredScript (files : FileSystem) (path : Path) : Except CommandError ScriptState × List JournalLine :=
  match Manifest.load files path with
  | .error cause => (.error (.manifest cause), [])
  | .ok manifest =>
    match manifest.identityFor? path with
    | none => (.error (.text ("cannot derive an identity from " ++ path.display)), [])
    | some identity =>
      let journal := registrationJournal manifest (.fresh identity)
      match manifest.register (.fresh identity) with
      | (_, .error cause) => (.error (.manifest cause), journal)
      | (script, .ok ()) => (.ok script, journal)

def sectionLines (s : InputSection) : List String :=
  ("[" ++ s.name ++ "] location=" ++ s.location ++ " builtin=" ++ (if s.builtin then "true" else "false") ++
    " owner=" ++ s.owner) :: s.lines.map ("  " ++ ·)

def observedLine (observed : Watch) : String :=
  "observe " ++ observed.key.encode ++ " as " ++ observed.format.name

def runSections (around : Surroundings) (path : Path) : Outcome :=
  match registeredScript around.files path with
  | (.error error, journal) => { files := around.files, journal := journal, error := some error }
  | (.ok script, journal) =>
    let compiled := script.keymap.compile
    { files := around.files
      printed := (if compiled.isEmpty then ["no key bindings in " ++ path.display] else []) ++
        compiled.sections.flatMap sectionLines ++ script.observed.toList.map observedLine
      journal := journal ++ sectionJournal script }

/-- The key of every target, or the first target that is none. -/
def targetKeys (targets : List String) : Except CommandError (List QualifiedName) :=
  targets.mapM fun target =>
    match QualifiedName.parse? target with
    | some key => .ok key
    | none => .error (.text (target ++ " is not of the form <identity>___<name>"))

/-- The texts that a host was given to log at a level, in order. -/
def loggedTexts (calls : List HostRequest) (level : LogLevel) : List String := calls.filterMap (·.loggedAt? level)

def reportLine (report : PumpReport) : String :=
  report.identity.name ++ ": " ++ Numeral.ofNat report.events ++ " event(s), " ++ Numeral.ofNat report.invoked ++
    " invoked, " ++ Numeral.ofNat report.failed ++ " failed"

def keyEvents (keys : List QualifiedName) (state : String) : List Event :=
  keys.map fun key => Event.ofKey key state

/-- Brings what a script has registered to a new simulated host. -/
def submission (script : ScriptState) : Run SimulatedHost.host.State SectionPair :=
  (script.submit true).run SimulatedHost.host ({} : SimulatedHost)

/-- What a dispatch has reported, apart from the registration, before it looks at the first target. -/
def openingJournal (script : ScriptState) : List JournalLine :=
  submissionJournal script (submission script).calls ++ [⟨.info, "events", "Started 1 script instance(s)"⟩]

/-- Sends a submitted script events over a bus, in the order in which everything is forwarded before the script looks at
any of it. Gives the reports, the calls made after the submission, and the journal. -/
def replay (script : ScriptState) (events : List Event) :
    Except CapacityError (List PumpReport × List HostRequest × List JournalLine) := do
  let host := SimulatedHost.host
  let state := (submission script).state.forget
  let bridge ← Bridge.ofScripts [script] defaultCapacity
  let waiting := { bridge with pending := events }
  let run := (bridge.run events).run host state
  pure (run.value, run.calls, followJournal host state waiting [] waiting.sequentialSchedule)

/-- Replays key releases against a manifest. A target that is no wire form ends the command before the script has taken
a turn. -/
def runDispatch (around : Surroundings) (path : Path) (targets : List String) (state : String) : Outcome :=
  match registeredScript around.files path with
  | (.error error, journal) => { files := around.files, journal := journal, error := some error }
  | (.ok script, registering) =>
    let opening := registering ++ openingJournal script
    match targetKeys targets with
    | .error error => { files := around.files, journal := opening, error := some error }
    | .ok keys =>
      match replay script (keyEvents keys state) with
      | .error error => { files := around.files, error := some (.text error.message) }
      | .ok (reports, calls, journal) =>
        { files := around.files
          printed := reports.map reportLine ++ (loggedTexts calls .info).map ("  " ++ ·) ++
            (loggedTexts calls .error).map ("  error: " ++ ·)
          journal := opening ++ journal }

def runCommand (around : Surroundings) (arguments : Arguments) (settings : Settings) : Outcome :=
  match arguments.command with
  | .paths => runPaths around arguments settings
  | .init force =>
    match around.settingsPath? arguments with
    | some path => runInit around path force
    | none => { files := around.files, error := some (.text "Failed to determine config directory") }
  | .scripts => runScripts around settings
  | .sections file => runSections around file
  | .dispatch file targets state => runDispatch around file targets state

def Outcome.exit (outcome : Outcome) : Exit :=
  { code := if outcome.error.isSome then 1 else 0
    files := outcome.files
    printed := outcome.printed
    error := outcome.error.map CommandError.details }

/-- The exit of a run that fails before its command. -/
def failure (files : FileSystem) (error : CommandError) : Exit :=
  { code := 1, files := files, error := some error.details }

/-- Runs a command with a log file, if the settings ask for one. -/
def runLogged (around : Surroundings) (arguments : Arguments) (settings : Settings) : Exit :=
  if !settings.logging.file then (runCommand around arguments settings).exit
  else
    match around.directories? with
    | none => failure around.files (.system .notFound)
    | some directories =>
      match openLog around.files directories with
      | (.error cause, files) => failure files (.system cause)
      | (.ok (), files) =>
        let outcome := runCommand { around with files := files } arguments settings
        let path := logFile directories
        let opening : JournalLine := ⟨.info, "mpvscript_runner::logging", "Logging to file: " ++ path.display⟩
        let filter := LogFilter.inForce around.environment settings.logging
        { outcome with files := writeLog outcome.files path filter (opening :: outcome.journal) }.exit

def run (around : Surroundings) (arguments : List String) : Exit :=
  match read arguments with
  | .refused => { code := 2, files := around.files }
  | .help => { code := 0, files := around.files }
  | .version => { code := 0, files := around.files, printed := [versionLine] }
  | .run arguments =>
    match around.settings arguments with
    | .error cause => failure around.files (.settings cause)
    | .ok settings => runLogged around arguments settings

end ScriptBridge.Cli
