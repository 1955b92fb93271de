import ScriptBridge.Host.Program

/-!
# A simulated host

A host in memory: it keeps properties and configuration file locations, records every call it accepts, and can be told
to refuse calls of chosen kinds.
-/
namespace ScriptBridge

inductive RequestKind where
  | setProperty
  | getProperty
  | deleteProperty
  | command
  | commandString
  | commandNode
  | requestEvent
  | enableMessages
  deriving DecidableEq, Repr

namespace RequestKind

def all : List RequestKind :=
  [.setProperty, .getProperty, .deleteProperty, .command, .commandString, .commandNode, .requestEvent,
   .enableMessages]

def name : RequestKind → String
  | .setProperty => "set_property"
  | .getProperty => "get_property"
  | .deleteProperty => "del_property"
  | .command => "command"
  | .commandString => "command_string"
  | .commandNode => "command_node"
  | .requestEvent => "request_event"
  | .enableMessages => "enable_messages"

def ofName? (name : String) : Option RequestKind := all.find? fun kind => kind.name = name

end RequestKind

/-- The answer to a call that a policy refuses; calls without a failing answer are never refused. -/
def HostRequest.refused? (request : HostRequest) (policy : RequestKind → Option HostError) :
    Option request.Reply :=
  match request with
  | .setProperty .. => (policy .setProperty).map .error
  | .getProperty .. => (policy .getProperty).map .error
  | .deleteProperty .. => (policy .deleteProperty).map .error
  | .command .. => (policy .command).map .error
  | .commandString .. => (policy .commandString).map .error
  | .commandNode .. => (policy .commandNode).map .error
  | .requestEvent .. => (policy .requestEvent).map .error
  | .enableMessages .. => (policy .enableMessages).map .error
  | .log .. | .defineSection .. | .enableSection .. | .findConfigFile .. | .extensionOk => none

structure SimulatedHost where
  /-- The stored properties. -/
  properties : List (String × PropertyValue) := []
  /-- Where named configuration files lie. -/
  configFiles : List (String × Path) := []
  /-- The kinds of call that are refused, and how. -/
  refusals : List (RequestKind × HostError) := []
  /-- The result of a structured command. -/
  commandReply : Node := .none
  /-- The calls that were accepted, the latest first. -/
  recorded : List HostRequest := []

namespace SimulatedHost

/-- The recorded calls in the order in which they were made. -/
def calls (host : SimulatedHost) : List HostRequest := host.recorded.reverse

def forget (host : SimulatedHost) : SimulatedHost := { host with recorded := [] }

def property? (host : SimulatedHost) (name : String) : Option PropertyValue :=
  Table.get? name host.properties

def seed (host : SimulatedHost) (name : String) (value : PropertyValue) : SimulatedHost :=
  { host with properties := Table.insert name value host.properties }

def locateConfig (host : SimulatedHost) (name : String) (path : Path) : SimulatedHost :=
  { host with configFiles := Table.insert name path host.configFiles }

def record (host : SimulatedHost) (request : HostRequest) : SimulatedHost :=
  { host with recorded := request :: host.recorded }

def refusal? (host : SimulatedHost) (kind : RequestKind) : Option HostError :=
  Table.get? kind host.refusals

def propertyTraffic (host : SimulatedHost) : Nat :=
  host.calls.countP fun request =>
    match request with
    | .getProperty .. | .setProperty .. | .deleteProperty .. => true
    | _ => false

def logged (host : SimulatedHost) (level : LogLevel) : List String :=
  host.calls.filterMap (·.loggedAt? level)

def definitions (host : SimulatedHost) : List InputSection :=
  host.calls.filterMap fun request =>
    match request with
    | .defineSection s => some s
    | _ => none

def activations (host : SimulatedHost) : List (String × SectionFlags) :=
  host.calls.filterMap fun request =>
    match request with
    | .enableSection name flags => some (name, flags)
    | _ => none

/-- Answers a call, without regard to refusals. -/
def accept (host : SimulatedHost) (request : HostRequest) : request.Reply × SimulatedHost :=
  let seen := host.record request
  match request with
  | .log .. | .defineSection .. | .enableSection .. => ((), seen)
  | .command arguments =>
    (if arguments.isEmpty then .error (.invalidParameter "empty command") else .ok (), seen)
  | .commandString _ => (.ok (), seen)
  | .commandNode _ => (.ok host.commandReply, seen)
  | .getProperty name format =>
    (match (host.property? name).bind (·.readAs? format) with
      | some value => .ok value
      | none => .error (.propertyUnavailable name), seen)
  | .setProperty name value => (.ok (), seen.seed name value)
  | .deleteProperty name =>
    (if (host.property? name).isSome then .ok () else .error (.propertyUnavailable name),
      { seen with properties := Table.erase name seen.properties })
  | .requestEvent .. => (.ok (), seen)
  | .enableMessages level =>
    (if (LogLevel.ofName? level).isSome || level = "no" then .ok ()
      else .error (.invalidParameter ("log level " ++ level)), seen)
  | .findConfigFile name => (Table.get? name host.configFiles, host)
  | .extensionOk => (true, host)

/-- Answers a call. A refused call has no effect and is not recorded. -/
def answer (host : SimulatedHost) (request : HostRequest) : request.Reply × SimulatedHost :=
  match request.refused? host.refusal? with
  | some reply => (reply, host)
  | none => host.accept request

def host : Host := ⟨SimulatedHost, answer⟩

end SimulatedHost
end ScriptBridge
