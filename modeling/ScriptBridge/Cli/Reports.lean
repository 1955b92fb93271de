import ScriptBridge.Bus.Bridge
import ScriptBridge.Cli.Journal
import ScriptBridge.Script.Manifest
import ScriptBridge.Script.Resolved

/-!
# What the parts of the program report

The lines that the steps of a command add to the journal: looking for scripts, registering a manifest, bringing it to
the host, and running it on the bus. The host reports what is logged through it, at the moment of the call; so the lines
of a callback stand between those that announce it and those that conclude it.
-/
namespace ScriptBridge.Cli

def severityOf : LogLevel → Severity
  | .fatal | .error => .error
  | .warn => .warn
  | .info => .info
  | .debug => .debug

/-- What the log lines of a host report. -/
def hostJournal (calls : List HostRequest) : List JournalLine :=
  calls.filterMap fun request =>
    match request with
    | .log level text => some ⟨severityOf level, "host", text⟩
    | _ => none

/-! ### Scripts -/

/-- What looking into the script directory reports. -/
def discoveryJournal (files : FileSystem) (directory : Path) : List JournalLine :=
  match files.list directory with
  | .ok _ =>
    [⟨.debug, "scripting", "Found " ++ Numeral.ofNat (files.scriptsIn directory).length ++ " script(s) in " ++
      directory.display⟩]
  | .error .notFound => []
  | .error cause =>
    [⟨.warn, "scripting", "Failed to read script directory " ++ directory.display ++ ": " ++ cause.message⟩]

/-- What reading a script reports: nothing, unless there is an identity and a file for it. -/
def readingLine? (files : FileSystem) (path : Path) : Option JournalLine :=
  match ResolvedScript.identityOf path, ResolvedScript.resolve files path with
  | .ok identity, .ok file =>
    some ⟨.debug, "scripting", "Reading script " ++ identity.name ++ " from " ++ file.display⟩
  | _, _ => none

/-! ### Registration -/

/-- What observing reports, up to the first entry with an unknown format. -/
def observationJournal (identity : ScriptId) : List ManifestWatch → List JournalLine
  | [] => []
  | entry :: rest =>
    match PropertyFormat.ofName? entry.format with
    | some format =>
      ⟨.debug, "scripting", "Observing " ++ QualifiedName.encode ⟨identity, entry.name⟩ ++ " as " ++ format.name⟩ ::
        observationJournal identity rest
    | none => []

/-- What adding bindings reports. A binding whose record a later one replaces has its line all the same. -/
def bindingJournal (script : ScriptState) : List ManifestBinding → List JournalLine
  | [] => []
  | entry :: rest =>
    let record := script.keymap.recordOf entry.request
    ⟨.debug, "scripting", "Adding binding " ++ record.name ++ " (" ++ Numeral.ofNat record.id.toNat ++ ") for " ++
      script.identity.name⟩ :: bindingJournal (Manifest.registerBinding script entry) rest

/-- What registering a manifest reports, whether it then fails or not. -/
def registrationJournal (manifest : Manifest) (script : ScriptState) : List JournalLine :=
  observationJournal script.identity manifest.observations ++
    match Manifest.registerObservations script manifest.observations with
    | (observing, .ok ()) => bindingJournal observing manifest.bindings
    | (_, .error _) => []

def sectionJournal (script : ScriptState) : List JournalLine :=
  script.keymap.compile.sections.map fun s =>
    ⟨.debug, "scripting", "Defining input section " ++ s.name ++ " with " ++ Numeral.ofNat s.lines.length ++
      " binding(s)"⟩

/-- What a submission reports that made these calls. The sections come last, and defining them logs nothing. -/
def submissionJournal (script : ScriptState) (calls : List HostRequest) : List JournalLine :=
  hostJournal (calls.take 1) ++ [⟨.debug, "scripting", "Flushing " ++ script.identity.name⟩] ++
    hostJournal (calls.drop 1) ++ sectionJournal script

/-! ### Events -/

/-- What an event that runs no callback adds to the line of its receipt. -/
def settledJournal (script : ScriptState) (event : Event) : EventAnswer → List JournalLine
  | .malformed =>
    match KeyMessage.decode event.data with
    | .error cause =>
      [⟨.debug, "scripting", "Dropping client message for " ++ script.identity.name ++ ": " ++ cause.message⟩]
    | .ok _ => []
  | .noCallback name =>
    [⟨.debug, "scripting", "No callback " ++ name ++ " registered for " ++ script.identity.name⟩]
  | _ => []

/-- What stands behind the lines of a callback that has run to this outcome. -/
def outcomeJournal (script : ScriptState) (name : String) : Except CallbackFailure Unit → List JournalLine
  | .ok () => [⟨.debug, "scripting", "Invoked callback " ++ name ++ " for " ++ script.identity.name⟩]
  | .error failure =>
    ⟨.error, "scripting", "Callback " ++ name ++ " for " ++ script.identity.name ++ " failed: " ++ failure.reason⟩ ::
      hostJournal [script.failureLog name failure]

/-- What answering an event reports, from a state of the host on. -/
def answerJournal (host : Host) (state : host.State) (script : ScriptState) (event : Event) : List JournalLine :=
  hostJournal [script.receivedLog event] ++
    match script.route event with
    | .settled answer => settledJournal script event answer
    | .run name callback =>
      let ran := callback.invoke.run host (host.answer state (script.receivedLog event)).2
      ⟨.debug, "scripting", "Calling callback " ++ name ++ " for " ++ script.identity.name⟩ ::
        (hostJournal ran.calls ++ outcomeJournal script name ran.value)

def receiptJournal (host : Host) (state : host.State) (pump : Pump) : Receipt → List JournalLine
  | .envelope envelope =>
    answerJournal host state pump.script envelope.event ++
      if envelope.event.isShutdown then
        [⟨.info, "events", "Script instance " ++ pump.report.identity.name ++ " received shutdown"⟩]
      else []
  | .lagged missed =>
    [⟨.error, "events", "Script instance " ++ pump.report.identity.name ++ " lagged, " ++ Numeral.ofNat missed ++
      " events were skipped"⟩]
  | .empty => []
  | .closed => [⟨.debug, "events", "Event channel closed for " ++ pump.report.identity.name⟩]

/-- What one turn of a bridge reports. A pump says that it has started when it takes its first turn. -/
def turnJournal (host : Host) (state : host.State) (bridge : Bridge) (first : Bool) : Turn → List JournalLine
  | .forward =>
    if !bridge.finished && bridge.pending.isEmpty then [⟨.debug, "events", "Host event channel closed"⟩] else []
  | .pump index =>
    match bridge.pumps[index]? with
    | none => []
    | some pump =>
      (if first then [⟨.info, "events", "Script instance " ++ pump.report.identity.name ++ " started"⟩] else []) ++
        if pump.stopped then [] else receiptJournal host state pump (bridge.bus.receive pump.subscriber).1

/-- What the turns of a schedule report, given those that were taken before them. -/
def followJournal (host : Host) (state : host.State) (bridge : Bridge) (earlier : List Turn) :
    List Turn → List JournalLine
  | [] => []
  | next :: rest =>
    let ran := (bridge.turn next).run host state
    turnJournal host state bridge (next ∉ earlier) next ++
      followJournal host ran.state ran.value (next :: earlier) rest

end ScriptBridge.Cli
