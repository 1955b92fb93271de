import Mathlib.Data.List.Induction
import Mathlib.Data.Option.Basic
import ScriptBridge.Host.Simulated
import ScriptBridge.Proofs.Property.Operations

/-!
# The property store

A host in memory that refuses nothing makes every change that a program asks for, one after another. So it holds, under
each name, what the last change to exactly that name left, and its answers can be read off that value.
-/
namespace ScriptBridge

/-- What is stored under a name after changes: what the last change to exactly that name left, or else what was there
before them. -/
def stored (name : String) (before : Option PropertyValue) (changes : List PropertyChange) : Option PropertyValue :=
  (changes.filter (·.1 = name)).getLast?.elim before Prod.snd

/-- What is stored is decided by the last change of this very name. -/
theorem stored_concat (name : String) (before : Option PropertyValue) (changes : List PropertyChange)
    (change : PropertyChange) :
    stored name before (changes ++ [change]) = if change.1 = name then change.2 else stored name before changes := by
  rw [stored, List.filter_append]
  by_cases named : change.1 = name
  · simp [named]
  · simp [named, stored]

theorem stored_singleton (name : String) (before : Option PropertyValue) (change : PropertyChange) :
    stored name before [change] = if change.1 = name then change.2 else before := stored_concat name before [] change

namespace SimulatedHost

/-- The properties after a change. -/
def applyChange (properties : List (String × PropertyValue)) : PropertyChange → List (String × PropertyValue)
  | (name, some value) => Table.insert name value properties
  | (name, none) => Table.erase name properties

theorem get?_applyChange (name : String) (properties : List (String × PropertyValue)) (change : PropertyChange) :
    Table.get? name (applyChange properties change) =
      if change.1 = name then change.2 else Table.get? name properties := by
  obtain ⟨changed, _ | value⟩ := change
  · simp only [applyChange, Table.get?_erase, eq_comm]
  · simp only [applyChange, Table.get?_insert, eq_comm]

/-- Of the changes to a name the last one shows. -/
theorem get?_foldl_applyChange (name : String) (properties : List (String × PropertyValue))
    (changes : List PropertyChange) :
    Table.get? name (changes.foldl applyChange properties) = stored name (Table.get? name properties) changes := by
  induction changes using List.reverseRecOn with
  | nil => rfl
  | append_singleton changes change ih =>
    rw [List.foldl_append, List.foldl_cons, List.foldl_nil, get?_applyChange, ih, stored_concat]

variable {α β : Type} {host : SimulatedHost} (program : Program α)

def after (host : SimulatedHost) (program : Program α) : SimulatedHost := (program.run SimulatedHost.host host).state

def result (host : SimulatedHost) (program : Program α) : α := (program.run SimulatedHost.host host).value

@[simp] theorem result_pure (value : α) : host.result (pure value) = value := rfl

theorem result_bind (next : α → Program β) :
    host.result (program >>= next) = (host.after program).result (next (host.result program)) :=
  Program.value_run_bind SimulatedHost.host program next host

/-- A host without refusals accepts every call. -/
theorem answer_eq_accept (obliging : host.refusals = []) (request : HostRequest) :
    host.answer request = host.accept request := by
  have never : ∀ kind, host.refusal? kind = none := fun kind => by rw [refusal?, obliging, Table.get?_nil]
  have passed : request.refused? host.refusal? = none := by
    cases request <;> simp only [HostRequest.refused?, never, Option.map_none]
  rw [answer, passed]

theorem accept_refusals (request : HostRequest) : (host.accept request).2.refusals = host.refusals := by
  cases request <;> rfl

/-- An accepted call makes the change that it asks for, and no other. -/
theorem accept_properties (request : HostRequest) :
    (host.accept request).2.properties = request.change?.toList.foldl applyChange host.properties := by
  cases request <;> rfl

/-- A program leaves the properties with its changes applied one after another, and the host still refuses nothing. -/
theorem properties_after (obliging : host.refusals = []) :
    (host.after program).properties =
      (program.changes SimulatedHost.host host).foldl applyChange host.properties ∧
    (host.after program).refusals = [] := by
  -- That nothing is refused is kept call by call, and so each call is the change that it asks for.
  induction program generalizing host with
  | done value => exact ⟨rfl, obliging⟩
  | call request next ih =>
    have answered : SimulatedHost.host.answer host request = ((host.accept request).1, (host.accept request).2) :=
      answer_eq_accept obliging request
    have left : host.after (.call request next) = (host.accept request).2.after (next (host.accept request).1) :=
      Program.state_run_call answered next
    have changed := Program.changes_call answered next
    obtain ⟨properties, refusals⟩ := ih (host.accept request).1 ((accept_refusals request).trans obliging)
    refine ⟨?_, left ▸ refusals⟩
    rw [left, properties, changed, List.foldl_append, accept_properties]

/-- Under each name a program leaves what the last of its changes to exactly that name left. -/
theorem property?_after (obliging : host.refusals = []) {changes : List PropertyChange}
    (made : program.changes SimulatedHost.host host = changes) (name : String) :
    (host.after program).property? name = stored name (host.property? name) changes := by
  rw [property?, (properties_after program obliging).1, made, get?_foldl_applyChange, property?]

theorem refusals_after (obliging : host.refusals = []) : (host.after program).refusals = [] :=
  (properties_after program obliging).2

/-! ### Results on a host that refuses nothing -/

section Results

variable (obliging : host.refusals = []) (access : HostAccess) (name : String)
include obliging

theorem result_ask (request : HostRequest) : host.result (Program.ask request) = (host.accept request).1 :=
  congrArg Prod.fst (answer_eq_accept obliging request)

theorem result_write (value : PropertyValue) : host.result (access.write name value) = true := by
  rw [HostAccess.write, result_bind, result_ask obliging]
  rfl

theorem result_hostRead (format : PropertyFormat) :
    host.result (Program.ask (.getProperty name format)) =
      ((host.property? name).bind (·.readAs? format)).elim (.error (.propertyUnavailable name)) .ok := by
  rw [result_ask obliging, accept]
  cases (host.property? name).bind (·.readAs? format) <;> rfl

theorem result_hostDelete :
    host.result (Program.ask (.deleteProperty name)) =
      if (host.property? name).isSome then .ok () else .error (.propertyUnavailable name) :=
  result_ask obliging _

theorem result_read (format : PropertyFormat) :
    host.result (access.read name format) = (host.property? name).bind (·.readAs? format) := by
  rw [HostAccess.read, result_bind, result_hostRead obliging, result_pure]
  cases (host.property? name).bind (·.readAs? format) <;> rfl

theorem result_deleteProperty : host.result (access.deleteProperty name) = (host.property? name).isSome := by
  rw [HostAccess.deleteProperty, result_bind, result_hostDelete obliging, result_pure]
  cases (host.property? name).isSome <;> rfl

theorem result_getProperty (format : PropertyFormat) :
    host.result (access.getProperty name format.code) = (host.property? name).bind (·.readAs? format) := by
  simp only [HostAccess.getProperty, HostAccess.formatOfCode, PropertyFormat.ofCode?_code]
  exact result_read obliging access name format

/-- Every typed read goes on from what a read of its format gives. -/
theorem result_read_then (format : PropertyFormat) (next : Option PropertyValue → β) :
    host.result (do let value ← access.read name format; pure (next value)) =
      next ((host.property? name).bind (·.readAs? format)) := by
  rw [result_bind, result_read obliging, result_pure]

theorem result_setInt (node : Node) :
    host.result (access.setInt name node) = node.requireInt64.map fun _ => true := by
  rw [HostAccess.setInt]
  cases node.requireInt64 with
  | error error => rfl
  | ok value => simp only [result_bind, result_write obliging, result_pure, Except.map]

theorem result_setDouble (node : Node) :
    host.result (access.setDouble name node) = node.requireDouble.map fun _ => true := by
  rw [HostAccess.setDouble]
  cases node.requireDouble with
  | error error => rfl
  | ok value => simp only [result_bind, result_write obliging, result_pure, Except.map]

theorem result_assign (node : Node) (format : PropertyFormat) :
    host.result (access.assign name node format) = (format.coerce node).toOption.map fun _ => true := by
  cases format with
  | string | osdString | flag | node =>
    simp only [HostAccess.assign, HostAccess.setString, HostAccess.setOsdString, HostAccess.setFlag,
      HostAccess.setNode, result_bind, result_write obliging, result_pure]
    rfl
  | int64 =>
    rw [HostAccess.assign, result_bind, result_setInt obliging, result_pure, PropertyFormat.coerce]
    cases node.requireInt64 <;> rfl
  | double =>
    rw [HostAccess.assign, result_bind, result_setDouble obliging, result_pure, PropertyFormat.coerce]
    cases node.requireDouble <;> rfl

theorem result_setProperty (code : Int64) (value : PropertyValue) :
    host.result (access.setProperty name code value) =
      if PropertyFormat.ofCode? code = some value.format then some true else none := by
  rcases HostAccess.checkWrite_eq code value with ⟨error, failed, wrong⟩ | ⟨passed, right⟩
  · simp only [HostAccess.setProperty, failed, wrong, result_bind, result_pure, ↓reduceIte]
  · simp only [HostAccess.setProperty, passed, right, result_bind, result_write obliging, result_pure, ↓reduceIte]

/-- A write is carried out and a deletion is when there was something to delete. -/
theorem result_program (operation : PropertyOperation) :
    host.result operation.program =
      operation.change?.map fun change => change.2.isSome || (host.property? change.1).isSome := by
  cases operation with
  | assign access format name node =>
    rw [PropertyOperation.program, result_assign obliging, PropertyOperation.change?, Option.map_map]
    rfl
  | write access name code value =>
    rw [PropertyOperation.program, result_setProperty obliging, PropertyOperation.change?]
    split <;> rfl
  | fetch | read | hostRead =>
    simp only [PropertyOperation.program, result_bind, result_pure, PropertyOperation.change?, Option.map_none]
  | delete access name =>
    rw [PropertyOperation.program, result_bind, result_deleteProperty obliging, result_pure]
    rfl
  | hostWrite name value =>
    rw [PropertyOperation.program, result_bind, result_ask obliging, result_pure]
    rfl
  | hostDelete name =>
    rw [PropertyOperation.program, result_bind, result_hostDelete obliging, result_pure]
    cases found : (host.property? name).isSome <;> simp [PropertyOperation.change?, found, Except.isOk, Except.toBool]

end Results

end SimulatedHost
end ScriptBridge
