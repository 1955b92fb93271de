import Mathlib.Tactic.IntervalCases
import ScriptBridge.Host.Simulated
import ScriptBridge.Proofs.Answering
import ScriptBridge.Proofs.Property.Operations

/-!
# The boundary to the host's properties

A call on a property either reaches the host as one request, rightly tagged, or is stopped before it. A raw call is
stopped by its wire code or its tag, and then one error log is all that the host hears of it; a numeric write is stopped
by its coercion, and then the host hears nothing. That the host refuses a request is an answer, and no rejection.
-/
namespace ScriptBridge

/-- A request about a property. -/
def HostRequest.isAboutProperty : HostRequest → Bool
  | .getProperty .. | .setProperty .. | .deleteProperty .. => true
  | _ => false

/-- A part of a host's state that log entries leave alone. -/
def Host.UntouchedByLog (host : Host) {σ : Type} (view : host.State → σ) : Prop :=
  ∀ (state : host.State) (level : LogLevel) (text : String), view (host.answer state (.log level text)).2 = view state

theorem SimulatedHost.properties_untouchedByLog : SimulatedHost.host.UntouchedByLog SimulatedHost.properties :=
  fun _ _ _ => rfl

namespace PropertyFormat

theorem ofCode?_eq_some_iff {code : Int64} {format : PropertyFormat} :
    ofCode? code = some format ↔ code = format.code := by
  constructor
  · intro known
    have coded := List.find?_some known
    rw [decide_eq_true_eq] at coded
    exact coded.symm
  · rintro rfl
    exact ofCode?_code format

/-- The wire codes of the formats are those from one to six. -/
theorem exists_code_eq_iff {code : Int64} : (∃ format : PropertyFormat, code = format.code) ↔
    1 ≤ code.toInt ∧ code.toInt ≤ 6 := by
  constructor
  · rintro ⟨format, rfl⟩
    cases format <;> decide
  · rintro ⟨low, high⟩
    have number : code = Int64.ofInt code.toInt := (Int64.ofInt_toInt code).symm
    generalize code.toInt = value at low high number
    interval_cases value
    · exact ⟨.string, number⟩
    · exact ⟨.osdString, number⟩
    · exact ⟨.flag, number⟩
    · exact ⟨.int64, number⟩
    · exact ⟨.double, number⟩
    · exact ⟨.node, number⟩

end PropertyFormat

namespace Program

variable {α : Type}

/-- Against every host the program asks for the value to be stored and for nothing else, and answers whether the host
accepted. -/
def Stores (program : Program α) (name : String) (value : PropertyValue) (accepted refused : α) : Prop :=
  ∀ (host : Host) (state : host.State),
    let reply := host.answer state (.setProperty name value)
    program.run host state = ⟨if reply.1.isOk then accepted else refused, [.setProperty name value], reply.2⟩

/-- Against every host the program asks for the property in the format and for nothing else. What it answers is made
of the value that the host gives; a refusal gives none. -/
def Fetches (program : Program α) (name : String) (format : PropertyFormat) (answer : Option PropertyValue → α) : Prop :=
  ∀ (host : Host) (state : host.State),
    let reply := host.answer state (.getProperty name format)
    program.run host state = ⟨answer reply.1.toOption, [.getProperty name format], reply.2⟩

/-- Against every host the program gives the result without a call. -/
def StopsWith (program : Program α) (result : α) : Prop :=
  ∀ (host : Host) (state : host.State), program.run host state = ⟨result, [], state⟩

/-- The run asks the host about a property. -/
def ReachesProperties (program : Program α) (host : Host) (state : host.State) : Prop :=
  ∃ request ∈ (program.run host state).calls, request.isAboutProperty = true

theorem Stores.reaches {program : Program α} {name : String} {value : PropertyValue} {accepted refused : α}
    (stores : program.Stores name value accepted refused) (host : Host) (state : host.State) :
    program.ReachesProperties host state := by
  unfold ReachesProperties
  rw [stores host state]
  exact ⟨_, List.mem_singleton_self _, rfl⟩

theorem Fetches.reaches {program : Program α} {name : String} {format : PropertyFormat}
    {answer : Option PropertyValue → α} (fetches : program.Fetches name format answer) (host : Host)
    (state : host.State) : program.ReachesProperties host state := by
  unfold ReachesProperties
  rw [fetches host state]
  exact ⟨_, List.mem_singleton_self _, rfl⟩

theorem StopsWith.not_reaches {program : Program α} {result : α} (stops : program.StopsWith result) (host : Host)
    (state : host.State) : ¬ program.ReachesProperties host state := by
  unfold ReachesProperties
  rw [stops host state]
  simp

end Program

namespace HostAccess
open Program

/-- The log entry about a rejected call on a property. -/
def rejection (access : HostAccess) (name : String) (error : BridgeError) : HostRequest :=
  .log .error ("(" ++ access.identity.name ++ ") " ++ ("property " ++ name ++ ": " ++ error.message))

/-- Against every host nothing comes of the call but one error log that names the property. Everything that the host
keeps apart from its log stays as it was. -/
structure Rejects {α : Type} (access : HostAccess) (program : Program (Option α)) (name : String) (error : BridgeError) :
    Prop where
  run_eq : ∀ (host : Host) (state : host.State), program.run host state =
    ⟨none, [access.rejection name error], (host.answer state (access.rejection name error)).2⟩
  keeps : ∀ (host : Host) (state : host.State) {σ : Type} (view : host.State → σ), host.UntouchedByLog view →
    view (program.run host state).state = view state

theorem Rejects.not_reaches {α : Type} {access : HostAccess} {program : Program (Option α)} {name : String}
    {error : BridgeError} (rejects : access.Rejects program name error) (host : Host) (state : host.State) :
    ¬ program.ReachesProperties host state := by
  unfold ReachesProperties
  rw [rejects.run_eq host state]
  simp [rejection, HostRequest.isAboutProperty]

section Calls

variable (access : HostAccess) (name : String)

theorem reject_eq_ask (error : BridgeError) :
    access.reject name error = Program.ask (access.rejection name error) := by
  have present : "property " ++ name ++ ": " ++ error.message ≠ "" := by
    simp [← String.toList_inj]
  unfold reject
  rw [log_eq_ask access .error present]
  rfl

theorem rejects_of_eq {α : Type} {program : Program (Option α)} {error : BridgeError}
    (same : program = do access.reject name error; pure none) : access.Rejects program name error := by
  have ran : ∀ (host : Host) (state : host.State), program.run host state =
      ⟨none, [access.rejection name error], (host.answer state (access.rejection name error)).2⟩ := by
    intro host state
    rw [same, reject_eq_ask]
    rfl
  refine ⟨ran, ?_⟩
  intro host state σ view untouched
  rw [ran]
  exact untouched state .error _

/-- Whatever a program makes of a write's answer, the write is all that the host hears. -/
theorem stores_write_then {α : Type} (value : PropertyValue) (answer : Bool → α) :
    (do let accepted ← access.write name value; pure (answer accepted) : Program α).Stores name value (answer true)
      (answer false) := by
  intro host state reply
  have ran : (access.write name value).run host state = ⟨reply.1.isOk, [.setProperty name value], reply.2⟩ := rfl
  rw [run_bind, ran]
  cases reply.1.isOk <;> rfl

theorem write_stores (value : PropertyValue) : (access.write name value).Stores name value true false := by
  intro host state reply
  have ran : (access.write name value).run host state = ⟨reply.1.isOk, [.setProperty name value], reply.2⟩ := rfl
  rw [ran]
  cases reply.1.isOk <;> rfl

/-- So is a read, whatever a program makes of it. -/
theorem fetches_read_then {α : Type} (format : PropertyFormat) (answer : Option PropertyValue → α) :
    (do let value ← access.read name format; pure (answer value) : Program α).Fetches name format answer :=
  fun _ _ => rfl

theorem read_fetches (format : PropertyFormat) : (access.read name format).Fetches name format id :=
  fun _ _ => rfl

/-! ### Raw calls -/

theorem setProperty_stores (value : PropertyValue) :
    (access.setProperty name value.format.code value).Stores name value (some true) (some false) := by
  have passed : checkWrite value.format.code value = .ok () := by
    rcases checkWrite_eq value.format.code value with ⟨_, _, wrong⟩ | ⟨passed, _⟩
    · exact absurd (PropertyFormat.ofCode?_code value.format) wrong
    · exact passed
  unfold setProperty
  rw [passed]
  exact access.stores_write_then name value some

theorem formatOfCode_unknown {code : Int64} (unknown : ¬ (1 ≤ code.toInt ∧ code.toInt ≤ 6)) :
    formatOfCode code = .error (.invalidFormat code) := by
  have missing : PropertyFormat.ofCode? code = none := by
    rw [Option.eq_none_iff_forall_ne_some]
    intro format known
    exact unknown (PropertyFormat.exists_code_eq_iff.mp ⟨format, PropertyFormat.ofCode?_eq_some_iff.mp known⟩)
  unfold formatOfCode
  rw [missing]

theorem setProperty_rejects_unknown {code : Int64} (unknown : ¬ (1 ≤ code.toInt ∧ code.toInt ≤ 6))
    (value : PropertyValue) : access.Rejects (access.setProperty name code value) name (.invalidFormat code) := by
  have failed : checkWrite code value = .error (.invalidFormat code) := by
    unfold checkWrite
    rw [formatOfCode_unknown unknown]
    rfl
  apply access.rejects_of_eq name
  unfold setProperty
  rw [failed]

/-- A code that is known, but not the one of the value's format, is refused before the host is asked. -/
theorem setProperty_rejects_mismatched {expected : PropertyFormat} {value : PropertyValue}
    (mismatched : value.format ≠ expected) :
    access.Rejects (access.setProperty name expected.code value) name (.formatMismatch expected value.format) := by
  have failed : checkWrite expected.code value = .error (.formatMismatch expected value.format) := by
    unfold checkWrite formatOfCode
    rw [PropertyFormat.ofCode?_code]
    exact if_neg mismatched
  apply access.rejects_of_eq name
  unfold setProperty
  rw [failed]

theorem getProperty_fetches (format : PropertyFormat) :
    (access.getProperty name format.code).Fetches name format id := by
  unfold getProperty formatOfCode
  rw [PropertyFormat.ofCode?_code]
  exact access.read_fetches name format

theorem getProperty_rejects_unknown {code : Int64} (unknown : ¬ (1 ≤ code.toInt ∧ code.toInt ≤ 6)) :
    access.Rejects (access.getProperty name code) name (.invalidFormat code) := by
  apply access.rejects_of_eq name
  unfold getProperty
  rw [formatOfCode_unknown unknown]

/-- A raw write reaches the host exactly when its code is one of the six and is that of the value's tag. -/
theorem setProperty_reaches_iff (code : Int64) (value : PropertyValue) (host : Host) (state : host.State) :
    (access.setProperty name code value).ReachesProperties host state ↔
      (1 ≤ code.toInt ∧ code.toInt ≤ 6) ∧ code = value.format.code := by
  constructor
  · intro reached
    have known : 1 ≤ code.toInt ∧ code.toInt ≤ 6 := by
      by_contra unknown
      exact (access.setProperty_rejects_unknown name unknown value).not_reaches host state reached
    refine ⟨known, ?_⟩
    obtain ⟨expected, rfl⟩ := PropertyFormat.exists_code_eq_iff.mpr known
    by_contra different
    have mismatched : value.format ≠ expected := fun same => different (congrArg PropertyFormat.code same.symm)
    exact (access.setProperty_rejects_mismatched name mismatched).not_reaches host state reached
  · rintro ⟨_, rfl⟩
    exact (access.setProperty_stores name value).reaches host state

/-- A raw read reaches the host exactly when its code is one of the six. -/
theorem getProperty_reaches_iff (code : Int64) (host : Host) (state : host.State) :
    (access.getProperty name code).ReachesProperties host state ↔ 1 ≤ code.toInt ∧ code.toInt ≤ 6 := by
  constructor
  · intro reached
    by_contra unknown
    exact (access.getProperty_rejects_unknown name unknown).not_reaches host state reached
  · intro known
    obtain ⟨format, rfl⟩ := PropertyFormat.exists_code_eq_iff.mpr known
    exact (access.getProperty_fetches name format).reaches host state

end Calls

/-! ### Typed calls -/

/-- A write of what a coercion gives: it reaches the host exactly when the coercion succeeds, and otherwise ends with the
coercion's error. -/
structure WritesCoerced {β : Type} (program : Program (Except BridgeError Bool)) (name : String)
    (coerced : Except BridgeError β) (tagged : β → PropertyValue) : Prop where
  reaches_iff : ∀ (host : Host) (state : host.State),
    program.ReachesProperties host state ↔ ∃ value, coerced = .ok value
  stores : ∀ value, coerced = .ok value → program.Stores name (tagged value) (.ok true) (.ok false)
  stops : ∀ error, coerced = .error error → program.StopsWith (.error error)

section Calls

variable (access : HostAccess) (name : String)

theorem writesCoerced_of_eq {β : Type} {program : Program (Except BridgeError Bool)} {coerced : Except BridgeError β}
    {tagged : β → PropertyValue}
    (same : program = match coerced with
      | .ok value => do
        let accepted ← access.write name (tagged value)
        pure (.ok accepted)
      | .error error => pure (.error error)) : WritesCoerced program name coerced tagged := by
  cases coerced with
  | ok value =>
    have stores : program.Stores name (tagged value) (.ok true) (.ok false) := by
      rw [same]
      exact access.stores_write_then name (tagged value) Except.ok
    refine ⟨?_, ?_, ?_⟩
    · intro host state
      exact ⟨fun _ => ⟨value, rfl⟩, fun _ => stores.reaches host state⟩
    · rintro other ⟨⟩
      exact stores
    · rintro error ⟨⟩
  | error cause =>
    have stops : program.StopsWith (.error cause) := by
      rw [same]
      exact fun _ _ => rfl
    refine ⟨?_, ?_, ?_⟩
    · intro host state
      simp [stops.not_reaches host state]
    · rintro value ⟨⟩
    · rintro error ⟨⟩
      exact stops

theorem setInt_writesCoerced (node : Node) :
    WritesCoerced (access.setInt name node) name node.requireInt64 .int64 := by
  apply access.writesCoerced_of_eq name
  unfold setInt
  cases node.requireInt64 <;> rfl

theorem setDouble_writesCoerced (node : Node) :
    WritesCoerced (access.setDouble name node) name node.requireDouble .double := by
  apply access.writesCoerced_of_eq name
  unfold setDouble
  cases node.requireDouble <;> rfl

end Calls

theorem requireInt64_error {node : Node} {error : BridgeError} (failed : node.requireInt64 = .error error) :
    error = .coercion .int64 node.kind := by
  unfold Node.requireInt64 at failed
  split at failed
  · cases failed
  · cases failed
    rfl

theorem requireDouble_error {node : Node} {error : BridgeError} (failed : node.requireDouble = .error error) :
    error = .coercion .double node.kind := by
  unfold Node.requireDouble at failed
  split at failed
  · cases failed
  · cases failed
    rfl

/-- What the calls of a script on one property come to, against every host and in each of its states. -/
structure GuardsProperty (access : HostAccess) (name : String) : Prop where
  rawWrite_reaches_iff : ∀ (code : Int64) (value : PropertyValue) (host : Host) (state : host.State),
    (access.setProperty name code value).ReachesProperties host state ↔
      (1 ≤ code.toInt ∧ code.toInt ≤ 6) ∧ code = value.format.code
  rawWrite_passes : ∀ value : PropertyValue,
    (access.setProperty name value.format.code value).Stores name value (some true) (some false)
  rawWrite_unknown : ∀ (code : Int64) (value : PropertyValue), ¬ (1 ≤ code.toInt ∧ code.toInt ≤ 6) →
    access.Rejects (access.setProperty name code value) name (.invalidFormat code)
  rawWrite_mismatched : ∀ (expected : PropertyFormat) (value : PropertyValue), value.format ≠ expected →
    access.Rejects (access.setProperty name expected.code value) name (.formatMismatch expected value.format)
  rawRead_reaches_iff : ∀ (code : Int64) (host : Host) (state : host.State),
    (access.getProperty name code).ReachesProperties host state ↔ 1 ≤ code.toInt ∧ code.toInt ≤ 6
  rawRead_passes : ∀ format : PropertyFormat, (access.getProperty name format.code).Fetches name format id
  rawRead_unknown : ∀ code : Int64, ¬ (1 ≤ code.toInt ∧ code.toInt ≤ 6) →
    access.Rejects (access.getProperty name code) name (.invalidFormat code)
  int : ∀ node : Node, WritesCoerced (access.setInt name node) name node.requireInt64 .int64
  int_error : ∀ (node : Node) (error : BridgeError), node.requireInt64 = .error error →
    error = .coercion .int64 node.kind
  double : ∀ node : Node, WritesCoerced (access.setDouble name node) name node.requireDouble .double
  double_error : ∀ (node : Node) (error : BridgeError), node.requireDouble = .error error →
    error = .coercion .double node.kind
  string : ∀ node : Node, (access.setString name node).Stores name (.string node.text) true false
  osdString : ∀ node : Node, (access.setOsdString name node).Stores name (.osdString node.text) true false
  flag : ∀ node : Node, (access.setFlag name node).Stores name (.flag node.isTruthy) true false
  node : ∀ node : Node, (access.setNode name node).Stores name (.node node) true false
  readString : (access.getString name).Fetches name .string (Option.map fun value => value.toNode.text)
  readOsdString : (access.getOsdString name).Fetches name .osdString (Option.map fun value => value.toNode.text)
  readFlag : (access.getFlag name).Fetches name .flag (Option.any fun value => value.toNode.isTruthy)
  readInt : (access.getInt name).Fetches name .int64 (Option.bind · fun value => value.toNode.toInt64?)
  readDouble : (access.getDouble name).Fetches name .double (Option.bind · fun value => value.toNode.toDouble?)
  readNode : (access.getNode name).Fetches name .node (Option.map PropertyValue.toNode)
  delete : ∀ (host : Host) (state : host.State),
    (access.deleteProperty name).run host state =
      ⟨(host.answer state (.deleteProperty name)).1.isOk, [.deleteProperty name],
        (host.answer state (.deleteProperty name)).2⟩

theorem guardsProperty (access : HostAccess) (name : String) : access.GuardsProperty name where
  rawWrite_reaches_iff := access.setProperty_reaches_iff name
  rawWrite_passes := access.setProperty_stores name
  rawWrite_unknown := fun _ value unknown => access.setProperty_rejects_unknown name unknown value
  rawWrite_mismatched := fun _ _ mismatched => access.setProperty_rejects_mismatched name mismatched
  rawRead_reaches_iff := access.getProperty_reaches_iff name
  rawRead_passes := access.getProperty_fetches name
  rawRead_unknown := fun _ unknown => access.getProperty_rejects_unknown name unknown
  int := access.setInt_writesCoerced name
  int_error := fun _ _ => requireInt64_error
  double := access.setDouble_writesCoerced name
  double_error := fun _ _ => requireDouble_error
  string := fun node => access.write_stores name (.string node.text)
  osdString := fun node => access.write_stores name (.osdString node.text)
  flag := fun node => access.write_stores name (.flag node.isTruthy)
  node := fun node => access.write_stores name (.node node)
  readString := access.fetches_read_then name .string _
  readOsdString := access.fetches_read_then name .osdString _
  readFlag := access.fetches_read_then name .flag _
  readInt := access.fetches_read_then name .int64 _
  readDouble := access.fetches_read_then name .double _
  readNode := access.fetches_read_then name .node _
  delete := fun _ _ => rfl

end HostAccess

end ScriptBridge
