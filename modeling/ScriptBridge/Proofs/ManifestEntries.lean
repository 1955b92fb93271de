import Mathlib.Data.List.Forall2
import ScriptBridge.Proofs.Manifests

/-!
# What the entries of a manifest leave behind

A manifest can be registered on any script, whatever that has registered before. The observations go first and stop at the
first one whose format has no name; the bindings follow only if there was none. Both overwrite what was there, entry by
entry, so that of several entries under one name the last one is found.
-/
namespace ScriptBridge

namespace Toml

mutual

/-- The node that a value becomes: of the same shape, with what it holds in the same places. -/
inductive Becomes : Value → Node → Prop
  | string (text : String) : Becomes (.string text) (.string text)
  | integer (number : Int64) : Becomes (.integer number) (.int64 number)
  | float (number : Double) : Becomes (.float number) (.double number)
  | boolean (flag : Bool) : Becomes (.boolean flag) (.flag flag)
  | datetime (moment : Datetime) : Becomes (.datetime moment) (.string (String.ofList moment.text))
  | array {items : List Value} {nodes : List Node} : ItemsBecome items nodes → Becomes (.array items) (.array nodes)
  | table {entries : Entries} {fields : List (String × Node)} :
      EntriesBecome entries fields → Becomes (.table entries) (.map fields)

/-- Item by item. -/
inductive ItemsBecome : List Value → List Node → Prop
  | nil : ItemsBecome [] []
  | cons {item : Value} {node : Node} {items : List Value} {nodes : List Node} :
      Becomes item node → ItemsBecome items nodes → ItemsBecome (item :: items) (node :: nodes)

/-- Entry by entry, each under its key. -/
inductive EntriesBecome : Entries → List (String × Node) → Prop
  | nil : EntriesBecome [] []
  | cons {value : Value} {node : Node} {entries : Entries} {fields : List (String × Node)} (key : String) :
      Becomes value node → EntriesBecome entries fields → EntriesBecome ((key, value) :: entries) ((key, node) :: fields)

end

mutual

theorem becomes_toNode : ∀ value : Value, Becomes value value.toNode
  | .string text => .string text
  | .integer number => .integer number
  | .float number => .float number
  | .boolean flag => .boolean flag
  | .datetime moment => .datetime moment
  | .array items => .array (itemsBecome_nodesOfItems items)
  | .table entries => .table (entriesBecome_nodesOfEntries entries)

theorem itemsBecome_nodesOfItems : ∀ items : List Value, ItemsBecome items (nodesOfItems items)
  | [] => .nil
  | item :: rest => .cons (becomes_toNode item) (itemsBecome_nodesOfItems rest)

theorem entriesBecome_nodesOfEntries : ∀ entries : Entries, EntriesBecome entries (nodesOfEntries entries)
  | [] => .nil
  | (key, value) :: rest => .cons key (becomes_toNode value) (entriesBecome_nodesOfEntries rest)

end

end Toml

namespace PropertyFormat

def names : List String := ["string", "osd-string", "flag", "int64", "double", "node"]

theorem name_mem_names (format : PropertyFormat) : format.name ∈ names := by
  cases format <;> decide

theorem name_of_ofName? {name : String} {format : PropertyFormat} (known : ofName? name = some format) :
    format.name = name := by
  rw [ofName?] at known
  simpa only [decide_eq_true_eq] using List.find?_some known

theorem ofName?_eq_none_iff {name : String} : ofName? name = none ↔ name ∉ names := by
  have listed : ∀ known ∈ names, (ofName? known).isSome = true := by decide +kernel
  constructor
  · intro unknown inside
    have known := listed name inside
    rw [unknown] at known
    cases known
  · intro outside
    cases found : ofName? name with
    | none => rfl
    | some format =>
      rw [← name_of_ofName? found] at outside
      exact absurd format.name_mem_names outside

end PropertyFormat

/-- The request that an entry makes in the name of a script. -/
structure ManifestWatch.AskedAs (owner : ScriptId) (entry : ManifestWatch) (watch : Watch) : Prop where
  key : watch.key = ⟨owner, entry.name⟩
  replyToken : watch.replyToken = entry.replyToken
  format : watch.format.name = entry.format

/-- A list of observed properties after entries that all have a format: under each key the last entry with this key, or else
what was there before. -/
structure Watchlist.Observes (before : Watchlist) (entries : List ManifestWatch) (after : Watchlist) : Prop where
  identity : after.identity = before.identity
  latest : ∃ watches, List.Forall₂ (ManifestWatch.AskedAs before.identity) entries watches ∧
    ∀ key, Table.get? key after.entries =
      (watches.filter (·.key = key)).getLast?.or (Table.get? key before.entries)

namespace Watchlist
variable {before after : Watchlist} {entries : List ManifestWatch}

theorem observes_nil (list : Watchlist) : list.Observes [] list :=
  ⟨rfl, [], .nil, fun _ => rfl⟩

/-- An entry in front of others counts unless one of them has its name. -/
theorem Observes.cons {entry : ManifestWatch} {format : PropertyFormat} (known : format.name = entry.format)
    (observes : (before.observe entry.name format entry.replyToken).Observes entries after) :
    before.Observes (entry :: entries) after := by
  obtain ⟨identity, watches, asked, found⟩ := observes
  refine ⟨identity, before.watch entry.name format entry.replyToken :: watches, .cons ⟨rfl, rfl, known⟩ asked, ?_⟩
  intro key
  rw [found key, observe, Table.get?_insert, List.filter_cons]
  by_cases same : key = (before.watch entry.name format entry.replyToken).key
  · rw [if_pos same, if_pos (decide_eq_true same.symm), List.getLast?_cons, Option.or_some, Option.some_or]
  · rw [if_neg same, if_neg (by simpa using Ne.symm same)]

end Watchlist

namespace Manifest

/-- The observations of a script after entries of which the first one that has no format comes behind the earlier ones. -/
theorem registerObservations_stops (script : ScriptState) (entries : List ManifestWatch) :
    ∃ earlier observed, (∀ entry ∈ earlier, entry.format ∈ PropertyFormat.names) ∧
      script.observed.Observes earlier observed ∧
      ((entries = earlier ∧ registerObservations script entries = ({ script with observed := observed }, .ok ())) ∨
        ∃ entry later, entries = earlier ++ entry :: later ∧ entry.format ∉ PropertyFormat.names ∧
          registerObservations script entries =
            ({ script with observed := observed }, .error (.unknownFormat entry.format))) := by
  induction entries generalizing script with
  | nil => exact ⟨[], script.observed, by simp, script.observed.observes_nil, .inl ⟨rfl, rfl⟩⟩
  | cons entry rest ih =>
    rw [registerObservations]
    cases named : PropertyFormat.ofName? entry.format with
    | none =>
      have unknown := PropertyFormat.ofName?_eq_none_iff.mp named
      exact ⟨[], script.observed, by simp, script.observed.observes_nil, .inr ⟨entry, rest, rfl, unknown, rfl⟩⟩
    | some format =>
      have known := PropertyFormat.name_of_ofName? named
      obtain ⟨earlier, observed, formats, observes, ends⟩ := ih (script.observe entry.name format entry.replyToken)
      refine ⟨entry :: earlier, observed, ?_, observes.cons known, ?_⟩
      · exact List.forall_mem_cons.mpr ⟨known ▸ format.name_mem_names, formats⟩
      · rcases ends with ⟨rfl, registered⟩ | ⟨first, later, rfl, unknown, registered⟩
        · exact .inl ⟨rfl, registered⟩
        · exact .inr ⟨first, later, rfl, unknown, registered⟩

end Manifest

/-- The record that is filed for an entry under an id. -/
structure ManifestBinding.FiledAs (entry : ManifestBinding) (owner : ScriptId) (drawn : UInt64) (record : Binding) :
    Prop where
  id : record.id = drawn
  name : record.name = entry.name.getD (defaultName drawn)
  key : record.key = entry.key
  input : record.input = entry.key.map fun key => inputLine key ⟨owner, record.name⟩
  builtin : record.builtin = entry.builtin
  options : Toml.EntriesBecome entry.options record.options

/-- A callback that, however often it has run, succeeds on any host and makes one call: it logs a text. -/
def Callback.OnlyLogs (callback : Callback) (text : String) : Prop :=
  ∀ (runs : Nat) (host : Host) (state : host.State),
    ((callback.body runs).run host state).value = .ok () ∧
    ((callback.body runs).run host state).calls = [.log .info text]

namespace Manifest

theorem onlyLogs_firedCallback (access : HostAccess) (name : String) :
    (firedCallback access name).OnlyLogs (firedText access.identity name) := by
  intro runs host state
  rw [ScriptState.firedCallback_body]
  exact ⟨rfl, rfl⟩

variable (script : ScriptState) (entry : ManifestBinding) (name : String)

theorem get?_registerBinding :
    (registerBinding script entry).keymap.get? name =
      if name = (script.keymap.recordOf entry.request).name then some (script.keymap.recordOf entry.request)
      else script.keymap.get? name :=
  Keymap.get?_register script.keymap entry.request _ name

/-- The callback is one for the very name under which the entry is filed. -/
theorem callback?_registerBinding :
    (registerBinding script entry).keymap.callback? name =
      if name = (script.keymap.recordOf entry.request).name then some (firedCallback script.access name)
      else script.keymap.callback? name := by
  rw [registerBinding, ScriptState.register, Keymap.callback?_register, Option.some_or]
  by_cases same : name = script.keymap.effectiveName entry.request
  · rw [if_pos same, same]
    exact (if_pos rfl).symm
  · rw [if_neg same]
    exact (if_neg same).symm

end Manifest

/-- Of the records under one name the last. -/
def Binding.latest : List Binding → List Binding
  | [] => []
  | record :: later => if record.name ∈ later.map Binding.name then latest later else record :: latest later

namespace Binding
variable (records kept : List Binding) (record : Binding)

/-- One more record displaces the earlier one with its name, and stands last. -/
theorem latest_concat : latest (records ++ [record]) = (latest records).filter (·.name ≠ record.name) ++ [record] := by
  induction records with
  | nil => rfl
  | cons first rest ih =>
    rw [List.cons_append, latest, latest, ih]
    by_cases again : first.name ∈ rest.map Binding.name
    · rw [if_pos again, if_pos (by simp only [List.map_append, List.mem_append, again, true_or])]
    · by_cases same : first.name = record.name
      · rw [if_pos (by simp [same]), if_neg again, List.filter_cons_of_neg (by simp [same])]
      · rw [if_neg (by simpa [same] using again), if_neg again, List.filter_cons_of_pos (by simp [same]),
          List.cons_append]

/-- To replace the records under the names of a list, and then those under one more name, replaces them all. -/
theorem replaced_concat :
    (kept.filter (·.name ∉ records.map Binding.name) ++ latest records).filter (·.name ≠ record.name) ++ [record] =
      kept.filter (·.name ∉ (records ++ [record]).map Binding.name) ++ latest (records ++ [record]) := by
  rw [List.filter_append, List.filter_filter, latest_concat, List.append_assoc]
  refine congrArg (· ++ _) (List.filter_congr fun old _ => ?_)
  rw [Bool.eq_iff_iff]
  simp only [Bool.and_eq_true, decide_eq_true_eq, List.map_append, List.map_cons, List.map_nil, List.mem_append,
    List.mem_singleton, not_or, and_comm, ne_eq]

theorem getLast?_filter_concat (name : String) :
    ((records ++ [record]).filter (·.name = name)).getLast? =
      if name = record.name then some record else (records.filter (·.name = name)).getLast? := by
  rw [List.filter_append]
  by_cases same : name = record.name
  · rw [if_pos same, List.filter_cons_of_pos (by simp [same]), List.filter_nil, List.getLast?_concat]
  · rw [if_neg same, List.filter_cons_of_neg (by simpa using Ne.symm same), List.filter_nil, List.append_nil]

end Binding

/-- A script after it filed records for entries, one after another. -/
structure ScriptState.Files (before : ScriptState) (entries : List ManifestBinding) (records : List Binding)
    (after : ScriptState) : Prop where
  identity : after.identity = before.identity
  owner : after.keymap.identity = before.keymap.identity
  /-- Each entry draws the next id and is filed as it says, -/
  length : records.length = entries.length
  filedAs : ∀ (index : Nat) (entry : ManifestBinding) (record : Binding), entries[index]? = some entry →
    records[index]? = some record →
    entry.FiledAs before.keymap.identity (before.keymap.lastId + UInt64.ofNat (index + 1)) record
  lastId : after.keymap.lastId = before.keymap.lastId + UInt64.ofNat entries.length
  /-- in place of what was there under its name. -/
  listed : after.keymap.records =
    before.keymap.records.filter (·.name ∉ records.map Binding.name) ++ Binding.latest records
  found : ∀ name, after.keymap.get? name =
    (records.filter (·.name = name)).getLast?.or (before.keymap.get? name)
  /-- Every name that is filed has a callback that logs it, and every other name has the callback it had. -/
  fires : ∀ record ∈ records, ∃ callback, after.keymap.callback? record.name = some callback ∧
    callback.OnlyLogs (firedText before.identity record.name)
  silent : ∀ name ∉ records.map Binding.name, after.keymap.callback? name = before.keymap.callback? name

namespace ScriptState
variable {before after : ScriptState} {entries : List ManifestBinding} {records : List Binding}

theorem files_nil (script : ScriptState) : script.Files [] [] script where
  identity := rfl
  owner := rfl
  length := rfl
  filedAs := by simp
  lastId := (UInt64.add_zero _).symm
  listed := by simp [Binding.latest]
  found _ := rfl
  fires := by simp
  silent _ _ := rfl

theorem filedAs_recordOf (keymap : Keymap) (entry : ManifestBinding) :
    entry.FiledAs keymap.identity keymap.nextId (keymap.recordOf entry.request) :=
  ⟨rfl, rfl, rfl, rfl, rfl, Toml.entriesBecome_nodesOfEntries entry.options⟩

/-- Each entry is filed under the next id, -/
theorem Files.filedAs_concat (files : before.Files entries records after) (entry : ManifestBinding) {index : Nat}
    {other : ManifestBinding} {record : Binding} (there : (entries ++ [entry])[index]? = some other)
    (filed : (records ++ [after.keymap.recordOf entry.request])[index]? = some record) :
    other.FiledAs before.keymap.identity (before.keymap.lastId + UInt64.ofNat (index + 1)) record := by
  rcases Nat.lt_trichotomy index entries.length with inside | rfl | beyond
  · rw [List.getElem?_append_left inside] at there
    rw [List.getElem?_append_left (files.length ▸ inside)] at filed
    exact files.filedAs index other record there filed
  · rw [List.getElem?_concat_length] at there
    rw [← files.length, List.getElem?_concat_length] at filed
    cases there
    cases filed
    rw [← files.owner, UInt64.ofNat_add, UInt64.ofNat_one, ← UInt64.add_assoc, ← files.lastId]
    exact filedAs_recordOf after.keymap entry
  · have outside : (entries ++ [entry]).length ≤ index := by
      rw [List.length_append, List.length_singleton]
      exact beyond
    rw [List.getElem?_eq_none outside] at there
    cases there

/-- in place of an earlier one with its name, and with a callback of its own. -/
theorem Files.concat (files : before.Files entries records after) (entry : ManifestBinding) :
    before.Files (entries ++ [entry]) (records ++ [after.keymap.recordOf entry.request])
      (Manifest.registerBinding after entry) where
  identity := files.identity
  owner := files.owner
  length := by rw [List.length_append, List.length_append, files.length, List.length_singleton, List.length_singleton]
  filedAs _ _ _ there filed := files.filedAs_concat entry there filed
  lastId := by
    rw [List.length_append, List.length_singleton, UInt64.ofNat_add, UInt64.ofNat_one, ← UInt64.add_assoc,
      ← files.lastId]
    rfl
  listed := by
    rw [← Binding.replaced_concat, ← files.listed]
    rfl
  found name := by
    rw [Binding.getLast?_filter_concat, Manifest.get?_registerBinding, files.found name]
    split <;> rfl
  fires := by
    intro record filed
    rw [Manifest.callback?_registerBinding]
    split
    next =>
      refine ⟨_, rfl, ?_⟩
      rw [← files.identity]
      exact Manifest.onlyLogs_firedCallback after.access record.name
    next other =>
      rcases List.mem_append.mp filed with earlier | last
      · exact files.fires record earlier
      · exact absurd (congrArg Binding.name (List.mem_singleton.mp last)) other
  silent := by
    intro name unfiled
    rw [List.map_append, List.mem_append, not_or, List.map_singleton, List.mem_singleton] at unfiled
    rw [Manifest.callback?_registerBinding, if_neg unfiled.2]
    exact files.silent name unfiled.1

theorem exists_files (script : ScriptState) (entries : List ManifestBinding) :
    ∃ records, script.Files entries records (entries.foldl Manifest.registerBinding script) := by
  induction entries using List.reverseRecOn with
  | nil => exact ⟨[], script.files_nil⟩
  | append_singleton entries entry ih =>
    obtain ⟨records, files⟩ := ih
    rw [List.foldl_append, List.foldl_cons, List.foldl_nil]
    exact ⟨_, files.concat entry⟩

end ScriptState

namespace Manifest

/-- The outcome of a registration and the script that it leaves. -/
structure FollowsEntries (manifest : Manifest) (before after : ScriptState) (outcome : Except ManifestError Unit) :
    Prop where
  succeeds : outcome = .ok () ↔ ∀ entry ∈ manifest.observations, entry.format ∈ PropertyFormat.names
  /-- On success the observations and then the bindings of the manifest have overwritten what was there. -/
  completes : outcome = .ok () → before.observed.Observes manifest.observations after.observed ∧
    ∃ records, before.Files manifest.bindings records after
  /-- Otherwise the error tells the first format that is none, and the observations in front of it are all that is there
  of the manifest. -/
  stops : ∀ error, outcome = .error error → ∃ earlier entry later, manifest.observations = earlier ++ entry :: later ∧
    (∀ other ∈ earlier, other.format ∈ PropertyFormat.names) ∧ entry.format ∉ PropertyFormat.names ∧
    error = .unknownFormat entry.format ∧ before.observed.Observes earlier after.observed ∧
    after.keymap = before.keymap ∧ after.identity = before.identity

theorem observed_foldl_registerBinding (script : ScriptState) (entries : List ManifestBinding) :
    (entries.foldl registerBinding script).observed = script.observed := by
  induction entries generalizing script with
  | nil => rfl
  | cons entry rest ih => exact ih (registerBinding script entry)

/-- A registration follows the entries of the manifest, on every script. -/
theorem register_follows_entries (manifest : Manifest) (script : ScriptState) :
    manifest.FollowsEntries script (manifest.register script).1 (manifest.register script).2 := by
  obtain ⟨earlier, observed, known, observes, ends⟩ := registerObservations_stops script manifest.observations
  rcases ends with ⟨rfl, registered⟩ | ⟨entry, later, whole, unknown, registered⟩
  · obtain ⟨records, files⟩ := ScriptState.exists_files { script with observed := observed } manifest.bindings
    rw [register, registered]
    exact {
      succeeds := ⟨fun _ => known, fun _ => rfl⟩
      completes := by
        intro _
        refine ⟨?_, records, { files with }⟩
        rw [observed_foldl_registerBinding]
        exact observes
      stops := nofun }
  · rw [register, registered]
    exact {
      succeeds := by
        refine ⟨nofun, fun all => absurd (all entry ?_) unknown⟩
        simp [whole]
      completes := nofun
      stops := by
        intro error failed
        cases failed
        exact ⟨earlier, entry, later, whole, known, unknown, rfl, observes, rfl, rfl⟩ }

/-- A format without a name between two observations of one property: the second observation is never made. -/
example :
    let observed := register ⟨none, [], [⟨"pause", "flag", 1⟩, ⟨"speed", "float", 0⟩, ⟨"pause", "node", 2⟩]⟩ (.fresh ⟨"seek"⟩)
    observed.2 = .error (.unknownFormat "float") ∧
      observed.1.observed.toList = [⟨⟨⟨"seek"⟩, "pause"⟩, 1, .flag⟩] := by
  exact ⟨rfl, rfl⟩

end Manifest
end ScriptBridge
