import Mathlib.Data.Finset.Card
import ScriptBridge.Proofs.Numerals
import ScriptBridge.Proofs.WireForm
import ScriptBridge.Proofs.Keymap.History

/-!
# What a keymap keeps of its history

Every registration leaves a record. A keymap keeps of these the last one under each name and lists them in the order of
their ids; what holds of all records that were ever left holds of the kept ones, because they are a sublist.
-/
namespace ScriptBridge

/-- The input line of a binding, spelled out. -/
theorem inputLine_eq (identity : ScriptId) (key name : String) :
    inputLine key ⟨identity, name⟩ = key ++ " script-binding python/" ++ identity.name ++ "___" ++ name := by
  apply String.toList_inj.mp
  simp [inputLine, bindingCommand, QualifiedName.toList_encode, QualifiedName.separator]

/-- Two registrations without a name of their own are filed under different names. -/
theorem Registration.nameAt_ne {first second : Registration} {firstIndex secondIndex : Nat}
    (firstSmall : firstIndex + 2 < UInt64.size) (secondSmall : secondIndex + 2 < UInt64.size)
    (different : firstIndex ≠ secondIndex) (firstUnnamed : first.request.name = none)
    (secondUnnamed : second.request.name = none) :
    first.nameAt firstIndex ≠ second.nameAt secondIndex := by
  intro same
  simp only [Registration.nameAt, firstUnnamed, secondUnnamed, Option.getD_none] at same
  exact different (Registration.idAt_injective firstSmall secondSmall (defaultName_injective same))

namespace History
open Registration

/-- The records are left in the order of their ids, as long as the ids do not run out. -/
theorem pairwise_id (identity : ScriptId) {history : History} (short : history.length < UInt64.size - 1) :
    (history.records identity).Pairwise (·.id < ·.id) := by
  rw [List.pairwise_iff_getElem]
  intro first second firstInside secondInside before
  have inside : second < history.length := by simpa only [records, List.length_mapIdx] using secondInside
  simp only [records, List.getElem_mapIdx, recordAt, UInt64.lt_iff_toNat_lt]
  rw [toNat_idAt (by omega), toNat_idAt (by omega)]
  omega

/-- The first id is two, and each registration draws the next one. -/
theorem id_bounds {identity : ScriptId} {history : History} (short : history.length < UInt64.size - 1)
    {binding : Binding} (left : binding ∈ history.records identity) :
    2 ≤ binding.id.toNat ∧ binding.id.toNat ≤ history.length + 1 := by
  obtain ⟨index, inside, rfl⟩ := List.mem_mapIdx.mp left
  have drawn : (idAt index).toNat = index + 2 := toNat_idAt (by omega)
  simp only [recordAt, drawn]
  omega

theorem input_eq {identity : ScriptId} {history : History} {binding : Binding}
    (left : binding ∈ history.records identity) :
    binding.input = binding.key.map fun key =>
      key ++ " script-binding python/" ++ identity.name ++ "___" ++ binding.name := by
  obtain ⟨index, inside, rfl⟩ := List.mem_mapIdx.mp left
  simp only [recordAt, inputLine_eq]

end History

namespace Keymap
variable (identity : ScriptId) (history : History)

/-- Records that are left stand in the order of their registrations. -/
theorem records_sublist : (ofHistory identity history).records.Sublist (history.records identity) := by
  induction history using List.reverseRecOn with
  | nil => exact List.Sublist.refl []
  | append_singleton history registration ih =>
    rw [records_ofHistory_concat, History.records_concat]
    exact (List.filter_sublist.trans ih).append (List.Sublist.refl _)

theorem nodup_names : ((ofHistory identity history).records.map Binding.name).Nodup := by
  induction history using List.reverseRecOn with
  | nil => exact List.nodup_nil
  | append_singleton history registration ih =>
    rw [records_ofHistory_concat, List.map_append, List.nodup_append]
    refine ⟨ih.sublist (List.filter_sublist.map Binding.name), List.nodup_singleton _, ?_⟩
    intro kept keptInside new newInside
    obtain ⟨binding, survives, rfl⟩ := List.mem_map.mp keptInside
    rw [List.mem_singleton.mp newInside]
    exact of_decide_eq_true (List.mem_filter.mp survives).2

/-- A keymap is the map from each name to the record of the last registration under it. -/
theorem get?_ofHistory (name : String) :
    (ofHistory identity history).get? name =
      ((history.records identity).filter (·.name = name)).getLast? := by
  induction history using List.reverseRecOn with
  | nil => rfl
  | append_singleton history registration ih =>
    rw [ofHistory_concat, get?_register, effectiveName_ofHistory, recordOf_ofHistory, History.records_concat,
      List.filter_append]
    by_cases named : name = registration.nameAt history.length
    · have last : [registration.recordAt identity history.length].filter (·.name = name) =
          [registration.recordAt identity history.length] := by
        simp [Registration.recordAt, named]
      rw [if_pos named, last, List.getLast?_concat]
    · have other : [registration.recordAt identity history.length].filter (·.name = name) = [] := by
        simp [Registration.recordAt, Ne.symm named]
      rw [if_neg named, other, List.append_nil, ih]

theorem name_of_get? {keymap : Keymap} {name : String} {binding : Binding} (found : keymap.get? name = some binding) :
    binding.name = name := by
  rw [get?] at found
  simpa only [decide_eq_true_eq] using List.find?_some found

theorem isSome_get?_iff (identity : ScriptId) {history : History} {name : String} :
    ((ofHistory identity history).get? name).isSome = true ↔ name ∈ history.names := by
  rw [get?_ofHistory, List.getLast?_isSome, ← History.map_name_records identity, List.mem_map]
  simp [List.filter_eq_nil_iff]

theorem mem_bindings_iff {identity : ScriptId} {history : History} {binding : Binding} :
    binding ∈ (ofHistory identity history).bindings ↔
      (ofHistory identity history).get? binding.name = some binding := by
  constructor
  · intro listed
    have present : ((ofHistory identity history).get? binding.name).isSome = true := by
      rw [get?, List.find?_isSome]
      exact ⟨binding, listed, decide_eq_true rfl⟩
    obtain ⟨found, same⟩ := Option.isSome_iff_exists.mp present
    have foundListed : found ∈ (ofHistory identity history).records := List.mem_of_find?_eq_some same
    rw [same, List.inj_on_of_nodup_map (nodup_names identity history) foundListed listed (name_of_get? same)]
  · exact List.mem_of_find?_eq_some

theorem size_ofHistory : (ofHistory identity history).size = history.names.toFinset.card := by
  have members : ((ofHistory identity history).records.map Binding.name).toFinset = history.names.toFinset := by
    ext name
    rw [List.mem_toFinset, List.mem_toFinset, ← isSome_get?_iff identity, get?, List.find?_isSome,
      List.mem_map]
    simp only [decide_eq_true_eq]
  rw [size, ← members, List.toFinset_card_of_nodup (nodup_names identity history), List.length_map]

/-- What a keymap comes to by a history of registrations. -/
structure KeepsLatest (identity : ScriptId) (history : History) : Prop where
  /-- Each registration draws the next id, from two on, and leaves the record of its place. -/
  drawn : ∀ (index : Nat) (registration : Registration), history[index]? = some registration →
    (ofHistory identity (history.take index)).nextId.toNat = index + 2 ∧
    (ofHistory identity (history.take index)).effectiveName registration.request = registration.nameAt index ∧
    (ofHistory identity (history.take index)).recordOf registration.request = registration.recordAt identity index
  /-- Under each name the record of the last registration with this name is found, -/
  latest : ∀ name, (ofHistory identity history).get? name =
    ((history.records identity).filter (·.name = name)).getLast?
  /-- and it bears this name. -/
  named : ∀ name binding, (ofHistory identity history).get? name = some binding → binding.name = name
  /-- A record has an input line exactly when it has a key, and then the one for its key and its qualified name. -/
  input : ∀ binding ∈ (ofHistory identity history).bindings, binding.input = binding.key.map fun key =>
    key ++ " script-binding python/" ++ identity.name ++ "___" ++ binding.name
  bounds : ∀ binding ∈ (ofHistory identity history).bindings,
    2 ≤ binding.id.toNat ∧ binding.id.toNat ≤ history.length + 1
  /-- No two registrations without a name of their own are filed under one name. -/
  unnamed : ∀ (first second : Nat) (one other : Registration), history[first]? = some one →
    history[second]? = some other → first ≠ second → one.request.name = none → other.request.name = none →
    one.nameAt first ≠ other.nameAt second
  size : (ofHistory identity history).size = history.names.toFinset.card
  hasBindings : (ofHistory identity history).hasBindings = true ↔ 1 ≤ history.length
  /-- The listing holds every record that is found under its name, -/
  listed : ∀ binding, binding ∈ (ofHistory identity history).bindings ↔
    (ofHistory identity history).get? binding.name = some binding
  /-- once, and by strictly increasing ids. -/
  ordered : (ofHistory identity history).bindings.Pairwise (·.id < ·.id)

theorem hasBindings_ofHistory_iff : (ofHistory identity history).hasBindings = true ↔ 1 ≤ history.length := by
  have empty : (ofHistory identity history).isEmpty = true ↔ history = [] := by
    rw [isEmpty, List.isEmpty_iff]
    constructor
    · intro vacant
      rcases List.eq_nil_or_concat' history with rfl | ⟨earlier, latest, rfl⟩
      · rfl
      · rw [records_ofHistory_concat] at vacant
        exact absurd vacant (List.append_ne_nil_of_right_ne_nil _ (List.cons_ne_nil _ _))
    · rintro rfl
      rfl
  rw [hasBindings, Bool.not_eq_true', ← Bool.not_eq_true, empty, ← List.length_eq_zero_iff]
  omega

/-- A keymap keeps the latest record under each name and lists what it keeps by id, whatever the history, as long as the
ids do not run out. -/
theorem keeps_latest {identity : ScriptId} {history : History} (short : history.length < UInt64.size - 1) :
    KeepsLatest identity history where
  drawn := by
    intro index registration present
    have inside := (List.getElem?_eq_some_iff.mp present).1
    have place : (history.take index).length = index := by
      rw [List.length_take]
      omega
    rw [nextId_ofHistory, effectiveName_ofHistory, recordOf_ofHistory, place]
    exact ⟨Registration.toNat_idAt (by omega), rfl, rfl⟩
  latest := get?_ofHistory identity history
  named := fun _ _ => name_of_get?
  input := fun _ listed => History.input_eq ((records_sublist identity history).subset listed)
  bounds := fun _ listed => History.id_bounds short ((records_sublist identity history).subset listed)
  unnamed := by
    intro first second one other firstPresent secondPresent different firstUnnamed secondUnnamed
    have firstInside := (List.getElem?_eq_some_iff.mp firstPresent).1
    have secondInside := (List.getElem?_eq_some_iff.mp secondPresent).1
    exact Registration.nameAt_ne (by omega) (by omega) different firstUnnamed secondUnnamed
  size := size_ofHistory identity history
  hasBindings := hasBindings_ofHistory_iff identity history
  listed := fun _ => mem_bindings_iff
  ordered := (History.pairwise_id identity short).sublist (records_sublist identity history)

/-- A name that is registered twice around a registration without a name and without a key. -/
theorem keeps_latest_renewed :
    let history : History := [⟨{ key := some "a", name := some "x" }, none⟩, ⟨{}, none⟩,
      ⟨{ key := some "b", name := some "x" }, none⟩]
    history.length < UInt64.size - 1 ∧ KeepsLatest ⟨"demo"⟩ history ∧ (ofHistory ⟨"demo"⟩ history).size = 2 := by
  intro history
  have short : history.length < UInt64.size - 1 := by decide
  have kept : KeepsLatest ⟨"demo"⟩ history := keeps_latest short
  exact ⟨short, kept, by decide +kernel⟩

end Keymap
end ScriptBridge
