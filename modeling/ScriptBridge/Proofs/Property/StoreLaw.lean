import ScriptBridge.Proofs.Property.Store

/-!
# The law of the property store

The scripts of a host share its properties. Whatever they did before, in whichever formats, each property holds the
value that was last written to exactly that name and not deleted since, and every read of it, in every format, is a
conversion of that value.
-/
namespace ScriptBridge
namespace SimulatedHost

variable {host : SimulatedHost}

/-- Every way to read a property gives the conversion of one value to the format of the reading, and nothing when there
is none or it does not convert; the typed read of a flag gives `false` then. -/
structure Shows (host : SimulatedHost) (name : String) (value : Option PropertyValue) : Prop where
  direct : ∀ format, host.result (Program.ask (.getProperty name format)) =
    (value.bind (·.readAs? format)).elim (.error (.propertyUnavailable name)) .ok
  raw : ∀ (access : HostAccess) (format : PropertyFormat),
    host.result (access.getProperty name format.code) = value.bind (·.readAs? format)
  string : ∀ access : HostAccess,
    (host.result (access.getString name)).map .string = value.bind (·.readAs? .string)
  osdString : ∀ access : HostAccess,
    (host.result (access.getOsdString name)).map .osdString = value.bind (·.readAs? .osdString)
  flag : ∀ access : HostAccess,
    .flag (host.result (access.getFlag name)) = (value.bind (·.readAs? .flag)).getD (.flag false)
  int64 : ∀ access : HostAccess,
    (host.result (access.getInt name)).map .int64 = value.bind (·.readAs? .int64)
  double : ∀ access : HostAccess,
    (host.result (access.getDouble name)).map .double = value.bind (·.readAs? .double)
  node : ∀ access : HostAccess,
    (host.result (access.getNode name)).map .node = value.bind (·.readAs? .node)

/-- A typed write by any script succeeds as soon as the node can be coerced, and right after it the typed read of that
format gives any script what the coercion made of the node. -/
structure ReadsBack (host : SimulatedHost) (name : String) : Prop where
  string : ∀ (writer reader : HostAccess) (node : Node), host.result (writer.setString name node) = true ∧
    (host.after (writer.setString name node)).result (reader.getString name) = some node.text
  osdString : ∀ (writer reader : HostAccess) (node : Node), host.result (writer.setOsdString name node) = true ∧
    (host.after (writer.setOsdString name node)).result (reader.getOsdString name) = some node.text
  flag : ∀ (writer reader : HostAccess) (node : Node), host.result (writer.setFlag name node) = true ∧
    (host.after (writer.setFlag name node)).result (reader.getFlag name) = node.isTruthy
  int64 : ∀ (writer reader : HostAccess) (node : Node),
    host.result (writer.setInt name node) = (node.requireInt64.map fun _ => true) ∧
    ∀ value, node.requireInt64 = .ok value →
      (host.after (writer.setInt name node)).result (reader.getInt name) = some value
  double : ∀ (writer reader : HostAccess) (node : Node),
    host.result (writer.setDouble name node) = (node.requireDouble.map fun _ => true) ∧
    ∀ value, node.requireDouble = .ok value →
      (host.after (writer.setDouble name node)).result (reader.getDouble name) = some value
  node : ∀ (writer reader : HostAccess) (node : Node), host.result (writer.setNode name node) = true ∧
    (host.after (writer.setNode name node)).result (reader.getNode name) = some node

/-- After a write of a flag, one toggle turns it over and a second one, by whichever scripts, leaves every property as it
was. -/
def TogglesBack (host : SimulatedHost) (name : String) : Prop :=
  ∀ (writer first second : HostAccess) (node : Node),
    let written := host.after (writer.setFlag name node)
    let toggled := written.after (first.toggleFlag name)
    toggled.property? name = some (.flag !node.isTruthy) ∧
    ∀ other, (toggled.after (second.toggleFlag name)).property? other = written.property? other

theorem shows_property? (obliging : host.refusals = []) (name : String) : host.Shows name (host.property? name) where
  direct := result_hostRead obliging name
  raw access format := result_getProperty obliging access name format
  string access := by
    rw [← PropertyValue.bind_coerce_readAs?, HostAccess.getString, result_read_then obliging]
    cases (host.property? name).bind (·.readAs? .string) <;> rfl
  osdString access := by
    rw [← PropertyValue.bind_coerce_readAs?, HostAccess.getOsdString, result_read_then obliging]
    cases (host.property? name).bind (·.readAs? .osdString) <;> rfl
  flag access := by
    rw [← PropertyValue.bind_coerce_readAs?, HostAccess.getFlag, result_read_then obliging]
    cases (host.property? name).bind (·.readAs? .flag) <;> rfl
  int64 access := by
    rw [← PropertyValue.bind_coerce_readAs?, HostAccess.getInt, result_read_then obliging, Option.map_bind]
    simp only [PropertyFormat.toOption_coerce_int64]
    rfl
  double access := by
    rw [← PropertyValue.bind_coerce_readAs?, HostAccess.getDouble, result_read_then obliging, Option.map_bind]
    simp only [PropertyFormat.toOption_coerce_double]
    rfl
  node access := by
    rw [← PropertyValue.bind_coerce_readAs?, HostAccess.getNode, result_read_then obliging]
    cases (host.property? name).bind (·.readAs? .node) <;> rfl

section Writes

variable (obliging : host.refusals = []) (writer reader : HostAccess) (name : String)
include obliging

theorem property?_after_write (value : PropertyValue) (other : String) :
    (host.after (writer.write name value)).property? other =
      if name = other then some value else host.property? other := by
  rw [property?_after _ obliging (writer.changes_write SimulatedHost.host host name value), stored_singleton]

theorem shows_after_write (value : PropertyValue) :
    (host.after (writer.write name value)).Shows name (some value) := by
  have shown := shows_property? (refusals_after (writer.write name value) obliging) name
  rwa [property?_after_write obliging, if_pos rfl] at shown

theorem getString_after_setString (node : Node) :
    (host.after (writer.setString name node)).result (reader.getString name) = some node.text :=
  Option.map_injective (fun _ _ => PropertyValue.string.inj)
    ((shows_after_write obliging writer name (.string node.text)).string reader)

theorem getOsdString_after_setOsdString (node : Node) :
    (host.after (writer.setOsdString name node)).result (reader.getOsdString name) = some node.text :=
  Option.map_injective (fun _ _ => PropertyValue.osdString.inj)
    ((shows_after_write obliging writer name (.osdString node.text)).osdString reader)

theorem getFlag_after_setFlag (node : Node) :
    (host.after (writer.setFlag name node)).result (reader.getFlag name) = node.isTruthy :=
  PropertyValue.flag.inj ((shows_after_write obliging writer name (.flag node.isTruthy)).flag reader)

theorem getNode_after_setNode (node : Node) :
    (host.after (writer.setNode name node)).result (reader.getNode name) = some node :=
  Option.map_injective (fun _ _ => PropertyValue.node.inj)
    ((shows_after_write obliging writer name (.node node)).node reader)

theorem getInt_after_setInt {node : Node} {value : Int64} (coerced : node.requireInt64 = .ok value) :
    (host.after (writer.setInt name node)).result (reader.getInt name) = some value := by
  have written : host.after (writer.setInt name node) = host.after (writer.write name (.int64 value)) := by
    rw [HostAccess.setInt, coerced]
    rfl
  rw [written]
  exact Option.map_injective (fun _ _ => PropertyValue.int64.inj)
    ((shows_after_write obliging writer name (.int64 value)).int64 reader)

theorem getDouble_after_setDouble {node : Node} {value : Double} (coerced : node.requireDouble = .ok value) :
    (host.after (writer.setDouble name node)).result (reader.getDouble name) = some value := by
  have written : host.after (writer.setDouble name node) = host.after (writer.write name (.double value)) := by
    rw [HostAccess.setDouble, coerced]
    rfl
  rw [written]
  exact Option.map_injective (fun _ _ => PropertyValue.double.inj)
    ((shows_after_write obliging writer name (.double value)).double reader)

theorem readsBack : host.ReadsBack name where
  string writer reader node :=
    ⟨result_write obliging writer name _, getString_after_setString obliging writer reader name node⟩
  osdString writer reader node :=
    ⟨result_write obliging writer name _, getOsdString_after_setOsdString obliging writer reader name node⟩
  flag writer reader node :=
    ⟨result_write obliging writer name _, getFlag_after_setFlag obliging writer reader name node⟩
  int64 writer reader node :=
    ⟨result_setInt obliging writer name node, fun _ => getInt_after_setInt obliging writer reader name⟩
  double writer reader node :=
    ⟨result_setDouble obliging writer name node, fun _ => getDouble_after_setDouble obliging writer reader name⟩
  node writer reader node :=
    ⟨result_write obliging writer name _, getNode_after_setNode obliging writer reader name node⟩

/-- A toggle writes the opposite of what the flag reads. -/
theorem property?_after_toggleFlag (other : String) :
    (host.after (writer.toggleFlag name)).property? other =
      if name = other then some (.flag !host.result (writer.getFlag name)) else host.property? other := by
  have made : (writer.toggleFlag name).changes SimulatedHost.host host =
      [(name, some (.flag !host.result (writer.getFlag name)))] := by
    refine (Program.changes_bind _ _ _ _).trans ?_
    exact congrArg₂ (· ++ ·) (writer.changes_fetch SimulatedHost.host host name .flag) (writer.changes_write ..)
  rw [property?_after _ obliging made, stored_singleton]

theorem togglesBack : host.TogglesBack name := by
  intro writer first second node written toggled
  -- Each toggle writes the opposite of the flag that is held, so the second one writes back what the first one found.
  have obligingWritten : written.refusals = [] := refusals_after _ obliging
  have obligingToggled : toggled.refusals = [] := refusals_after _ obligingWritten
  have held : written.property? name = some (.flag node.isTruthy) := by
    rw [show written = host.after (writer.write name (.flag node.isTruthy)) from rfl, property?_after_write obliging,
      if_pos rfl]
  have opposite := property?_after_toggleFlag obligingWritten first name
  rw [getFlag_after_setFlag obliging] at opposite
  have turned : toggled.property? name = some (.flag !node.isTruthy) := (opposite name).trans (if_pos rfl)
  have readTurned : toggled.result (second.getFlag name) = !node.isTruthy := by
    rw [HostAccess.getFlag, result_read_then obligingToggled, turned]
    rfl
  refine ⟨turned, fun other => ?_⟩
  rw [property?_after_toggleFlag obligingToggled, readTurned, Bool.not_not, ← held]
  by_cases same : name = other
  · rw [if_pos same, same]
  · rw [if_neg same]
    exact (opposite other).trans (if_neg same)

end Writes

/-- An operation that is not carried out leaves the properties as they are: a reading, a rejected call, a deletion of a
property that is not there. -/
theorem properties_after_of_result_ne (obliging : host.refusals = []) {operation : PropertyOperation}
    (idle : host.result operation.program ≠ some true) :
    (host.after operation.program).properties = host.properties := by
  rw [(properties_after _ obliging).1, show _ = _ from operation.changes_program SimulatedHost.host host]
  rw [result_program obliging] at idle
  cases asked : operation.change? with
  | none => rfl
  | some change =>
    obtain ⟨name, _ | value⟩ := change
    · have missing : Table.get? name host.properties = none := by simpa [asked, property?] using idle
      exact Table.erase_of_get?_eq_none missing
    · simp [asked] at idle

/-- An operation leaves the properties under other names as they are. -/
theorem property?_after_of_name_ne (obliging : host.refusals = []) {operation : PropertyOperation} {name : String}
    (other : operation.name ≠ name) : (host.after operation.program).property? name = host.property? name := by
  rw [property?_after _ obliging (operation.changes_program SimulatedHost.host host)]
  cases asked : operation.change? with
  | none => rfl
  | some change =>
    have about := PropertyOperation.name_of_change asked
    exact (stored_singleton ..).trans (if_neg (about ▸ other))

/-- The law of the property store. After any operations by any scripts, every read of a property gives the conversion of
the value that was last written to it and not deleted since. Whatever operation comes next: if it is not carried out it
changes nothing, if it is about another property it does not change this one, what a typed write stored reads back as
the write made it, and two toggles cancel out. -/
theorem property_store_law (host : SimulatedHost) (obliging : host.refusals = [])
    (history : List PropertyOperation) (name : String) :
    let now := host.after (PropertyOperation.replay history)
    now.Shows name (stored name (host.property? name) (history.filterMap PropertyOperation.change?)) ∧
    (∀ operation : PropertyOperation, now.result operation.program ≠ some true →
      (now.after operation.program).properties = now.properties) ∧
    (∀ operation : PropertyOperation, operation.name ≠ name →
      (now.after operation.program).property? name = now.property? name) ∧
    now.ReadsBack name ∧ now.TogglesBack name := by
  intro now
  have obligingNow : now.refusals = [] := refusals_after _ obliging
  have held := property?_after _ obliging (PropertyOperation.changes_replay SimulatedHost.host host history) name
  refine ⟨held ▸ shows_property? obligingNow name, ?_, ?_, readsBack obligingNow name, togglesBack obligingNow name⟩
  · intro operation idle
    exact properties_after_of_result_ne obligingNow idle
  · intro operation other
    exact property?_after_of_name_ne obligingNow other

/-- Two scripts share a property: the text that the first one wrote as an integer stays when the second one's raw write
has the wrong tag, and a flag that was deleted on the host directly is gone. -/
theorem property_store_law_shared :
    let first : HostAccess := ⟨⟨"first"⟩⟩
    let second : HostAccess := ⟨⟨"second"⟩⟩
    let history : List PropertyOperation :=
      [.hostWrite "volume" (.string "loud"), .assign first .int64 "volume" (.string " 42 "),
        .write second "volume" 4 (.flag true), .fetch second .double "volume",
        .assign second .flag "pause" (.int64 2), .hostDelete "pause", .delete first "title"]
    let now := ({} : SimulatedHost).after (PropertyOperation.replay history)
    now.Shows "volume" (some (.int64 42)) ∧ now.Shows "pause" none ∧
    (now.after (PropertyOperation.delete first "pause").program).properties = now.properties ∧
    now.ReadsBack "volume" ∧ now.TogglesBack "pause" := by
  intro first second history now
  obtain ⟨volume, _, _, readsBack, _⟩ := property_store_law {} rfl history "volume"
  obtain ⟨pause, idle, _, _, togglesBack⟩ := property_store_law {} rfl history "pause"
  have kept : stored "volume" (property? {} "volume") (history.filterMap PropertyOperation.change?) =
      some (.int64 42) := rfl
  have deleted : stored "pause" (property? {} "pause") (history.filterMap PropertyOperation.change?) = none := rfl
  have absent : now.property? "pause" = none :=
    (property?_after _ rfl (PropertyOperation.changes_replay SimulatedHost.host {} history) "pause").trans deleted
  have failed : now.result (PropertyOperation.delete first "pause").program = some false := by
    rw [result_program (refusals_after _ rfl), PropertyOperation.change?, Option.map_some, absent]
    rfl
  refine ⟨kept ▸ volume, deleted ▸ pause, idle _ ?_, readsBack, togglesBack⟩
  rw [failed]
  decide

end SimulatedHost
end ScriptBridge
