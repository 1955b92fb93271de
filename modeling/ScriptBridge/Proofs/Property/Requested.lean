import ScriptBridge.Proofs.Property.Boundary

/-!
# The tags of the values that the host is asked to store

Operations of scripts run one after another, against a host that answers as it likes. Each asks the host to store a
value only under the tag that was requested of it, so a run of them does too.
-/
namespace ScriptBridge

/-- One operation that a script carries out on the host. -/
inductive AccessOperation where
  | log (level : LogLevel) (message : String)
  | command (name : String) (arguments : List String)
  | commandString (text : String)
  | commandNode (node : Node)
  | showText (text : String) (duration : Option Int64) (level : Option UInt8)
  | requestEventKind (kind : EventKind) (enable : Bool)
  | requestEvent (name : String) (enable : Bool)
  | enableMessages (level : String)
  | findConfigFile (name : String)
  | extensionOk
  /-- The write by wire code. -/
  | write (name : String) (code : Int64) (value : PropertyValue)
  /-- The typed write of a format. -/
  | assign (format : PropertyFormat) (name : String) (node : Node)
  | toggleFlag (name : String)
  /-- The read by wire code. -/
  | read (name : String) (code : Int64)
  /-- The typed read of a format. -/
  | fetch (format : PropertyFormat) (name : String)
  | delete (name : String)

namespace AccessOperation

def program (access : HostAccess) : AccessOperation → Program Unit
  | log level message => access.log level message
  | command name arguments => do
    let _ ← access.command name arguments
  | commandString text => do
    let _ ← access.commandString text
  | commandNode node => do
    let _ ← access.commandNode node
  | showText text duration level => do
    let _ ← access.showText text duration level
  | requestEventKind kind enable => do
    let _ ← access.requestEventKind kind enable
  | requestEvent name enable => do
    let _ ← access.requestEvent name enable
  | enableMessages level => do
    let _ ← access.enableMessages level
  | findConfigFile name => do
    let _ ← access.findConfigFile name
  | extensionOk => do
    let _ ← access.extensionOk
  | write name code value => do
    let _ ← access.setProperty name code value
  | assign format name node => do
    let _ ← access.assign name node format
  | toggleFlag name => do
    let _ ← access.toggleFlag name
  | read name code => do
    let _ ← access.getProperty name code
  | fetch format name => access.fetch name format
  | delete name => do
    let _ ← access.deleteProperty name

/-- The property and the tag under which the operation asks for something to be stored. -/
def requested? : AccessOperation → Option (String × PropertyFormat)
  | write name code _ => (PropertyFormat.ofCode? code).map fun format => (name, format)
  | assign format name _ => some (name, format)
  | toggleFlag name => some (name, .flag)
  | _ => none

/-- Whether the operation passes the checks that stand in front of the host. -/
def isPassed : AccessOperation → Bool
  | write _ code value => PropertyFormat.ofCode? code = some value.format
  | assign format _ node => (format.coerce node).isOk
  | read _ code => (PropertyFormat.ofCode? code).isSome
  | _ => true

/-- Carries operations out one after another, by whichever scripts. -/
def replay : List (HostAccess × AccessOperation) → Program Unit
  | [] => pure ()
  | (access, operation) :: rest => do
    operation.program access
    replay rest

end AccessOperation

/-- The property and the tag of the value that the host is asked to store. -/
def HostRequest.tag? : HostRequest → Option (String × PropertyFormat)
  | .setProperty name value => some (name, value.format)
  | _ => none

/-- The properties and tags under which a program asks the host to store values, in order. -/
def Program.tags {α : Type} (program : Program α) (host : Host) (state : host.State) : List (String × PropertyFormat) :=
  (program.run host state).calls.filterMap HostRequest.tag?

/-- The tag of a change: that of its value. -/
def PropertyChange.tag? (change : PropertyChange) : Option (String × PropertyFormat) :=
  change.2.map fun value => (change.1, value.format)

section Tags

variable {α β : Type} (access : HostAccess) (host : Host) (state : host.State)

theorem Program.tags_eq_changes (program : Program α) :
    program.tags host state = (program.changes host state).filterMap PropertyChange.tag? := by
  unfold Program.tags Program.changes
  rw [List.filterMap_filterMap]
  refine congrArg (List.filterMap · _) (funext fun request => ?_)
  cases request <;> rfl

theorem Program.tags_bind (program : Program α) (next : α → Program β) :
    (program >>= next).tags host state = program.tags host state ++
      (next (program.run host state).value).tags host (program.run host state).state := by
  unfold Program.tags
  rw [run_bind, List.filterMap_append]

/-- A program that only asks one question, whatever it makes of the answer. -/
theorem Program.tags_ask_then (request : HostRequest) (result : request.Reply → α) :
    (do let reply ← Program.ask request; pure (result reply) : Program α).tags host state = request.tag?.toList := by
  have called : ((do let reply ← Program.ask request; pure (result reply) : Program α).run host state).calls =
      [request] := rfl
  unfold Program.tags
  rw [called, List.filterMap_cons]
  cases request.tag? <;> rfl

theorem HostAccess.changes_log (level : LogLevel) (message : String) :
    (access.log level message).changes host state = [] := by
  unfold log
  split
  · rfl
  · exact Program.changes_ask ..

end Tags

namespace AccessOperation

/-- The property and the tag under which the operation asks the host for something to be stored: those that were
requested, unless a check stops it. -/
def asked? (operation : AccessOperation) : Option (String × PropertyFormat) :=
  if operation.isPassed then operation.requested? else none

theorem tags_assign (access : HostAccess) (format : PropertyFormat) (name : String) (node : Node) (host : Host)
    (state : host.State) :
    ((assign format name node).program access).tags host state = (asked? (assign format name node)).toList := by
  rw [Program.tags_eq_changes, program, Program.changes_bind, access.changes_assign, Program.changes_pure,
    List.append_nil]
  cases coerced : format.coerce node with
  | ok value =>
    have tagged : value.format = format := PropertyFormat.format_of_coerce coerced
    simp [asked?, isPassed, requested?, coerced, tagged, Except.toOption, Except.isOk, Except.toBool,
      PropertyChange.tag?]
  | error error => simp [asked?, isPassed, coerced, Except.toOption, Except.isOk, Except.toBool]

theorem tags_write (access : HostAccess) (name : String) (code : Int64) (value : PropertyValue) (host : Host)
    (state : host.State) :
    ((write name code value).program access).tags host state = (asked? (write name code value)).toList := by
  rw [Program.tags_eq_changes, program, Program.changes_bind, access.changes_setProperty, Program.changes_pure,
    List.append_nil]
  by_cases passed : PropertyFormat.ofCode? code = some value.format
  · simp [asked?, requested?, isPassed, passed, PropertyChange.tag?]
  · simp [asked?, isPassed, passed]

/-- Against any host, an operation asks for a value to be stored only under the tag that was requested, and for none
when a check stops it. -/
theorem tags_program (access : HostAccess) (operation : AccessOperation) (host : Host) (state : host.State) :
    (operation.program access).tags host state = operation.asked?.toList := by
  cases operation with
  | log level message =>
    rw [program, Program.tags_eq_changes, access.changes_log]
    rfl
  | command | commandString | commandNode | showText | requestEventKind | enableMessages | findConfigFile | extensionOk
    | delete =>
    exact Program.tags_ask_then host state _ _
  | requestEvent name enable =>
    rw [program, HostAccess.requestEvent]
    cases EventKind.ofName? name with
    | none => rfl
    | some kind => exact Program.tags_ask_then host state (.requestEvent kind.id enable) _
  | write name code value => exact tags_write access name code value host state
  | assign format name node => exact tags_assign access format name node host state
  | toggleFlag name =>
    rw [program, Program.tags_eq_changes]
    simp [HostAccess.toggleFlag, HostAccess.getFlag, HostAccess.setFlag, asked?, requested?, isPassed,
      PropertyChange.tag?, PropertyValue.format]
  | read name code =>
    rw [program, Program.tags_eq_changes, Program.changes_bind, access.changes_getProperty]
    simp [asked?, requested?]
  | fetch format name =>
    rw [program, Program.tags_eq_changes, access.changes_fetch]
    rfl

/-- Over a run of operations, in order. -/
theorem tags_replay (operations : List (HostAccess × AccessOperation)) (host : Host) (state : host.State) :
    (replay operations).tags host state = operations.filterMap fun entry => entry.2.asked? := by
  induction operations generalizing state with
  | nil => rfl
  | cons entry rest ih =>
    rw [replay, Program.tags_bind, tags_program, ih, List.filterMap_cons]
    cases entry.2.asked? <;> rfl

end AccessOperation

/-- No invalid call on a property crosses to the host. Every call reaches it exactly when its checks let it through, a
call that they stop leaves everything but the log as it was, and so whatever operations scripts carry out, the values
that the host is asked to store are those that were requested, each with the requested tag. -/
theorem no_invalid_call_crosses :
    SimulatedHost.host.UntouchedByLog SimulatedHost.properties ∧
    (∀ (access : HostAccess) (name : String), access.GuardsProperty name) ∧
    ∀ (operations : List (HostAccess × AccessOperation)) (host : Host) (state : host.State),
      (AccessOperation.replay operations).tags host state = operations.filterMap fun entry => entry.2.asked? :=
  ⟨SimulatedHost.properties_untouchedByLog, HostAccess.guardsProperty, AccessOperation.tags_replay⟩

end ScriptBridge
