import ScriptBridge.HostAccess
import ScriptBridge.Proofs.Property.Conversion

/-!
# Operations on properties

Properties are written, read and deleted by the typed calls of a script, by its raw calls with a wire code, and on the
host directly. Whatever the host answers, each operation asks it for one change or for none: the coerced value of a
typed write, the value of a raw write whose code and tag agree, or a deletion.
-/
namespace ScriptBridge

/-- A change to a property: its name, and what is stored under it from then on, which is nothing after a deletion. -/
abbrev PropertyChange := String × Option PropertyValue

/-- The change that a request asks for. -/
def HostRequest.change? : HostRequest → Option PropertyChange
  | .setProperty name value => some (name, some value)
  | .deleteProperty name => some (name, none)
  | _ => none

/-- An operation on properties; those of scripts carry the access of the script. -/
inductive PropertyOperation where
  /-- The typed write of a format. -/
  | assign (access : HostAccess) (format : PropertyFormat) (name : String) (node : Node)
  /-- The write by wire code. -/
  | write (access : HostAccess) (name : String) (code : Int64) (value : PropertyValue)
  /-- The typed read of a format. -/
  | fetch (access : HostAccess) (format : PropertyFormat) (name : String)
  /-- The read by wire code. -/
  | read (access : HostAccess) (name : String) (code : Int64)
  | delete (access : HostAccess) (name : String)
  /-- A write on the host directly. -/
  | hostWrite (name : String) (value : PropertyValue)
  /-- A read on the host directly. -/
  | hostRead (name : String) (format : PropertyFormat)
  /-- A deletion on the host directly. -/
  | hostDelete (name : String)

namespace HostAccess

/-- The typed writes: nothing when the coercion fails, otherwise whether the host accepted. -/
def assign (access : HostAccess) (name : String) (node : Node) : PropertyFormat → Program (Option Bool)
  | .string => do
    let accepted ← access.setString name node
    pure (some accepted)
  | .osdString => do
    let accepted ← access.setOsdString name node
    pure (some accepted)
  | .flag => do
    let accepted ← access.setFlag name node
    pure (some accepted)
  | .int64 => do
    let answer ← access.setInt name node
    pure answer.toOption
  | .double => do
    let answer ← access.setDouble name node
    pure answer.toOption
  | .node => do
    let accepted ← access.setNode name node
    pure (some accepted)

/-- The typed reads, without their answers. -/
def fetch (access : HostAccess) (name : String) : PropertyFormat → Program Unit
  | .string => do
    let _ ← access.getString name
  | .osdString => do
    let _ ← access.getOsdString name
  | .flag => do
    let _ ← access.getFlag name
  | .int64 => do
    let _ ← access.getInt name
  | .double => do
    let _ ← access.getDouble name
  | .node => do
    let _ ← access.getNode name

end HostAccess

namespace PropertyOperation

def name : PropertyOperation → String
  | assign _ _ name _ | write _ name _ _ | fetch _ _ name | read _ name _ | delete _ name => name
  | hostWrite name _ | hostRead name _ | hostDelete name => name

/-- Carries the operation out. Nothing comes of a reading and of a call that is rejected before it reaches the host;
otherwise the answer is whether the host made the change. -/
def program : PropertyOperation → Program (Option Bool)
  | assign access format name node => access.assign name node format
  | write access name code value => access.setProperty name code value
  | fetch access format name => do
    access.fetch name format
    pure none
  | read access name code => do
    let _ ← access.getProperty name code
    pure none
  | delete access name => do
    let deleted ← access.deleteProperty name
    pure (some deleted)
  | hostWrite name value => do
    let reply ← Program.ask (.setProperty name value)
    pure (some reply.isOk)
  | hostRead name format => do
    let _ ← Program.ask (.getProperty name format)
    pure none
  | hostDelete name => do
    let reply ← Program.ask (.deleteProperty name)
    pure (some reply.isOk)

def change? : PropertyOperation → Option PropertyChange
  | assign _ format name node => (format.coerce node).toOption.map fun value => (name, some value)
  | write _ name code value => if PropertyFormat.ofCode? code = some value.format then some (name, some value) else none
  | hostWrite name value => some (name, some value)
  | delete _ name | hostDelete name => some (name, none)
  | fetch .. | read .. | hostRead .. => none

/-- Carries operations out one after another, by whichever scripts, and keeps their answers. -/
def replay : List PropertyOperation → Program (List (Option Bool))
  | [] => pure []
  | operation :: rest => do
    let answer ← operation.program
    let answers ← replay rest
    pure (answer :: answers)

end PropertyOperation

/-- The changes among the calls that a program makes. -/
def Program.changes {α : Type} (program : Program α) (host : Host) (state : host.State) : List PropertyChange :=
  (program.run host state).calls.filterMap HostRequest.change?

section Changes

variable {α β : Type} (access : HostAccess) (host : Host) (state : host.State)

@[simp] theorem Program.changes_pure (value : α) : (pure value : Program α).changes host state = [] := rfl

theorem Program.changes_call {host : Host} {state : host.State} {request : HostRequest} {reply : request.Reply}
    {left : host.State} (answered : host.answer state request = (reply, left)) (next : request.Reply → Program α) :
    (Program.call request next).changes host state = request.change?.toList ++ (next reply).changes host left := by
  rw [changes, calls_run_call answered]
  cases asked : request.change? with
  | none => rw [List.filterMap_cons_none asked]; rfl
  | some change => rw [List.filterMap_cons_some asked]; rfl

theorem Program.changes_ask (request : HostRequest) :
    (Program.ask request).changes host state = request.change?.toList :=
  (changes_call rfl .done).trans (List.append_nil _)

@[simp] theorem Program.changes_bind (program : Program α) (next : α → Program β) :
    (program >>= next).changes host state =
      program.changes host state ++
        (next (program.run host state).value).changes host (program.run host state).state := by
  simp only [changes, run_bind, List.filterMap_append]

namespace HostAccess

theorem checkWrite_eq (code : Int64) (value : PropertyValue) :
    (∃ error, checkWrite code value = .error error ∧ PropertyFormat.ofCode? code ≠ some value.format) ∨
    (checkWrite code value = .ok () ∧ PropertyFormat.ofCode? code = some value.format) := by
  cases known : PropertyFormat.ofCode? code with
  | none => exact .inl ⟨.invalidFormat code, by simp only [checkWrite, formatOfCode, known]; rfl, by simp⟩
  | some format =>
    by_cases tagged : value.format = format
    · exact .inr ⟨by simp only [checkWrite, formatOfCode, known]; exact if_pos tagged, by rw [tagged]⟩
    · refine .inl ⟨.formatMismatch format value.format, ?_, fun same => tagged (Option.some.inj same).symm⟩
      simp only [checkWrite, formatOfCode, known]
      exact if_neg tagged

@[simp] theorem changes_reject (name : String) (error : BridgeError) :
    (access.reject name error).changes host state = [] := by
  rw [reject, log]
  split
  · rfl
  · exact Program.changes_ask ..

@[simp] theorem changes_write (name : String) (value : PropertyValue) :
    (access.write name value).changes host state = [(name, some value)] := by
  rw [write, Program.changes_bind, Program.changes_ask]
  rfl

@[simp] theorem changes_read (name : String) (format : PropertyFormat) :
    (access.read name format).changes host state = [] := by
  rw [read, Program.changes_bind, Program.changes_ask]
  rfl

theorem changes_assign (name : String) (node : Node) (format : PropertyFormat) :
    (access.assign name node format).changes host state =
      ((format.coerce node).toOption.map fun value => (name, some value)).toList := by
  cases format with
  | string => simp [assign, setString, PropertyFormat.coerce, Except.toOption]
  | osdString => simp [assign, setOsdString, PropertyFormat.coerce, Except.toOption]
  | flag => simp [assign, setFlag, PropertyFormat.coerce, Except.toOption]
  | int64 =>
    cases coerced : node.requireInt64 <;>
      simp [assign, setInt, PropertyFormat.coerce, Except.toOption, Except.map, coerced]
  | double =>
    cases coerced : node.requireDouble <;>
      simp [assign, setDouble, PropertyFormat.coerce, Except.toOption, Except.map, coerced]
  | node => simp [assign, setNode, PropertyFormat.coerce, Except.toOption]

/-- A raw write changes its property only under the code of the value's own format. -/
theorem changes_setProperty (name : String) (code : Int64) (value : PropertyValue) :
    (access.setProperty name code value).changes host state =
      if PropertyFormat.ofCode? code = some value.format then [(name, some value)] else [] := by
  rcases checkWrite_eq code value with ⟨error, failed, wrong⟩ | ⟨passed, right⟩
  · simp [setProperty, failed, wrong]
  · simp [setProperty, passed, right]

theorem changes_fetch (name : String) (format : PropertyFormat) :
    (access.fetch name format).changes host state = [] := by
  cases format <;> simp [fetch, getString, getOsdString, getFlag, getInt, getDouble, getNode]

theorem changes_getProperty (name : String) (code : Int64) :
    (access.getProperty name code).changes host state = [] := by
  rw [getProperty]
  split <;> simp

end HostAccess

namespace PropertyOperation

/-- Against any host, an operation asks for exactly its own change. -/
theorem changes_program (operation : PropertyOperation) :
    operation.program.changes host state = operation.change?.toList := by
  cases operation with
  | assign access format name node => exact access.changes_assign host state name node format
  | write access name code value =>
    rw [program, access.changes_setProperty, change?]
    split <;> rfl
  | fetch access format name => simp [program, change?, HostAccess.changes_fetch]
  | read access name code => simp [program, change?, HostAccess.changes_getProperty]
  | delete access name =>
    rw [program, HostAccess.deleteProperty, Program.changes_bind, Program.changes_bind, Program.changes_ask]
    rfl
  | hostWrite | hostRead | hostDelete =>
    rw [program, Program.changes_bind, Program.changes_ask]
    rfl

/-- The changes of a history are those of its operations, in order. -/
theorem changes_replay (history : List PropertyOperation) :
    (replay history).changes host state = history.filterMap change? := by
  induction history generalizing state with
  | nil => rfl
  | cons operation rest ih =>
    rw [replay, Program.changes_bind, Program.changes_bind, changes_program, ih, Program.changes_pure, List.append_nil]
    cases asked : operation.change? with
    | none => rw [List.filterMap_cons_none asked]; rfl
    | some change => rw [List.filterMap_cons_some asked]; rfl

/-- The change is to the property that the operation is about. -/
theorem name_of_change {operation : PropertyOperation} {change : PropertyChange}
    (asked : operation.change? = some change) : change.1 = operation.name := by
  cases operation with
  | assign access format name node =>
    obtain ⟨value, _, rfl⟩ := Option.map_eq_some_iff.mp asked
    rfl
  | write access name code value =>
    rw [change?] at asked
    split at asked
    · cases asked; rfl
    · cases asked
  | fetch | read | hostRead => cases asked
  | delete | hostWrite | hostDelete => cases asked; rfl

end PropertyOperation

end Changes
end ScriptBridge
