import ScriptBridge.Proofs.Keymap.Records
import ScriptBridge.Proofs.SectionLines

/-!
# Names that are given by default

A binding without a name of its own is named after its id. No earlier default name is the same, but a script may have
chosen that very name for an earlier binding; then, and only then, a registration without a name displaces one.
-/
namespace ScriptBridge
open Registration

namespace Keymap

/-- A registration comes to stand beside everything that is there already. -/
structure AddsBeside (keymap : Keymap) (request : BindingRequest) (callback : Option Callback) : Prop where
  /-- Nothing is filed under its name. -/
  unused : keymap.get? (keymap.effectiveName request) = none
  /-- Each binding is found unchanged under its name, -/
  kept : ∀ binding ∈ keymap.bindings, (keymap.register request callback).get? binding.name = some binding
  /-- its line is still in the section with its flag, -/
  lines : ∀ binding ∈ keymap.bindings, ∀ line, binding.input = some line →
    ∃ compiled ∈ (keymap.register request callback).compile.sections,
      compiled.builtin = binding.builtin ∧ line ∈ compiled.lines
  /-- and there is one binding more. -/
  grows : (keymap.register request callback).size = keymap.size + 1

theorem get?_eq_none_iff {identity : ScriptId} {history : History} {name : String} :
    (ofHistory identity history).get? name = none ↔ name ∉ history.names := by
  rw [← isSome_get?_iff identity, Bool.not_eq_true, Option.isSome_eq_false_iff, Option.isNone_iff_eq_none]

variable {identity : ScriptId} {history : History} (registration : Registration)

/-- Every binding of another name stays as it is. -/
theorem kept_of_ne {binding : Binding} (filed : binding ∈ (ofHistory identity history).bindings)
    (other : binding.name ≠ registration.nameAt history.length) :
    (ofHistory identity (history ++ [registration])).get? binding.name = some binding := by
  rw [ofHistory_concat, get?_register, effectiveName_ofHistory, if_neg other]
  exact mem_bindings_iff.mp filed

/-- The number of bindings grows exactly for a name that no earlier registration has. -/
theorem size_concat :
    (ofHistory identity (history ++ [registration])).size =
      (ofHistory identity history).size + if registration.nameAt history.length ∈ history.names then 0 else 1 := by
  have names : (History.names (history ++ [registration])).toFinset =
      insert (registration.nameAt history.length) history.names.toFinset := by
    rw [History.names_concat, List.toFinset_append, Finset.union_comm]
    rfl
  rw [size_ofHistory, size_ofHistory, names]
  by_cases used : registration.nameAt history.length ∈ history.names
  · rw [if_pos used, Finset.insert_eq_of_mem (List.mem_toFinset.mpr used), Nat.add_zero]
  · rw [if_neg used, Finset.card_insert_of_notMem (by rwa [List.mem_toFinset])]

/-- A registration leaves all others exactly when its name is new. -/
theorem addsBeside_iff :
    (ofHistory identity history).AddsBeside registration.request registration.callback ↔
      registration.nameAt history.length ∉ history.names := by
  constructor
  · intro beside
    have unused := beside.unused
    rwa [effectiveName_ofHistory, get?_eq_none_iff] at unused
  · intro unused
    have kept : ∀ binding ∈ (ofHistory identity history).bindings,
        (ofHistory identity (history ++ [registration])).get? binding.name = some binding := by
      intro binding filed
      have name := (isSome_get?_iff identity).mp (Option.isSome_of_mem (mem_bindings_iff.mp filed))
      exact kept_of_ne registration filed fun same => unused (same ▸ name)
    refine ⟨?_, ?_, ?_, ?_⟩
    · rw [effectiveName_ofHistory]
      exact get?_eq_none_iff.mpr unused
    · rw [← ofHistory_concat]
      exact kept
    · rw [← ofHistory_concat]
      intro binding filed line input
      exact exists_section_iff.mpr ⟨binding, mem_bindings_iff.mpr (kept binding filed), rfl, input⟩
    · rw [← ofHistory_concat, size_concat, if_neg unused]

/-- The record that gives way is listed no longer: its id is not the new one. -/
theorem not_mem_bindings_concat (short : history.length < UInt64.size - 2) {binding : Binding}
    (filed : binding ∈ (ofHistory identity history).bindings)
    (same : binding.name = registration.nameAt history.length) :
    binding ∉ (ofHistory identity (history ++ [registration])).bindings := by
  intro survives
  have found := mem_bindings_iff.mp survives
  rw [ofHistory_concat, get?_register, effectiveName_ofHistory, if_pos same, recordOf_ofHistory,
    Option.some.injEq] at found
  have drawn : (registration.recordAt identity history.length).id.toNat = history.length + 2 := toNat_idAt (by omega)
  have bounds := History.id_bounds (by omega) ((records_sublist identity history).subset filed)
  rw [← found, drawn] at bounds
  omega

theorem nameAt_of_unnamed {index : Nat} (small : index + 2 < UInt64.size) (unnamed : registration.request.name = none) :
    registration.nameAt index = "__keybinding" ++ Numeral.ofNat (index + 2) := by
  rw [nameAt, unnamed, Option.getD_none, defaultName, toNat_idAt small]

/-- The default name at the end of a history is in use exactly when an earlier registration chose it for itself: the
earlier default names come from other ids. -/
theorem nameAt_mem_names_iff (short : history.length < UInt64.size - 2) (unnamed : registration.request.name = none) :
    registration.nameAt history.length ∈ history.names ↔
      ∃ earlier ∈ history, earlier.request.name = some ("__keybinding" ++ Numeral.ofNat (history.length + 2)) := by
  rw [← nameAt_of_unnamed registration (by omega) unnamed]
  constructor
  · intro used
    obtain ⟨index, inside, same⟩ := List.mem_mapIdx.mp used
    refine ⟨history[index], List.getElem_mem inside, ?_⟩
    cases chosen : history[index].request.name with
    | none => exact absurd same (Registration.nameAt_ne (by omega) (by omega) (by omega) chosen unnamed)
    | some name =>
      rw [nameAt, chosen, Option.getD_some] at same
      rw [same]
  · rintro ⟨earlier, before, chosen⟩
    obtain ⟨index, inside, rfl⟩ := List.mem_iff_getElem.mp before
    refine List.mem_mapIdx.mpr ⟨index, inside, ?_⟩
    rw [nameAt, chosen, Option.getD_some]

/-- A registration without a name comes to stand beside everything that is there exactly when no earlier registration
chose the name of its id. If one did, the binding with that name is displaced; no other one ever is. -/
theorem unnamed_addsBeside_iff {identity : ScriptId} {history : History} {request : BindingRequest}
    (short : history.length < UInt64.size - 2) (unnamed : request.name = none) (callback : Option Callback) :
    let before := ofHistory identity history
    let after := before.register request callback
    let chosen := "__keybinding" ++ Numeral.ofNat (history.length + 2)
    (before.AddsBeside request callback ↔ ∀ earlier ∈ history, earlier.request.name ≠ some chosen) ∧
    ((∃ earlier ∈ history, earlier.request.name = some chosen) → after.size = before.size ∧
      ∃ displaced ∈ before.bindings, displaced.name = chosen ∧ displaced ∉ after.bindings) ∧
    ∀ binding ∈ before.bindings, binding.name ≠ chosen → after.get? binding.name = some binding := by
  intro before after chosen
  let registration : Registration := ⟨request, callback⟩
  have named : registration.nameAt history.length = chosen := nameAt_of_unnamed registration (by omega) unnamed
  have used := nameAt_mem_names_iff registration short unnamed
  have left : after = ofHistory identity (history ++ [registration]) :=
    (ofHistory_concat identity history registration).symm
  refine ⟨?_, ?_, ?_⟩
  · have beside : before.AddsBeside request callback ↔ registration.nameAt history.length ∉ history.names :=
      addsBeside_iff registration
    rw [beside, used]
    simp only [not_exists, not_and, ne_eq, chosen]
  · intro taken
    have member := used.mpr taken
    obtain ⟨displaced, found⟩ := Option.isSome_iff_exists.mp ((isSome_get?_iff identity).mpr member)
    have name := name_of_get? found
    have filed : displaced ∈ before.bindings := mem_bindings_iff.mpr (by rw [name, found])
    refine ⟨?_, displaced, filed, name.trans named, ?_⟩
    · rw [left, size_concat, if_pos member, Nat.add_zero]
    · rw [left]
      exact not_mem_bindings_concat registration short filed name
  · intro binding filed other
    rw [left]
    exact kept_of_ne registration filed (by rwa [named])

/-- A chosen name that looks like a default one is no obstacle when its id has been drawn already. -/
theorem unnamed_addsBeside_later :
    let history : History := [⟨{ key := some "a", name := some "__keybinding3" }, none⟩,
      ⟨{ key := some "b", name := some "x" }, none⟩]
    history.length < UInt64.size - 2 ∧ (ofHistory ⟨"demo"⟩ history).AddsBeside { key := some "c" } none := by
  intro history
  have short : history.length < UInt64.size - 2 := by decide
  have free : ∀ earlier ∈ history,
      earlier.request.name ≠ some ("__keybinding" ++ Numeral.ofNat (history.length + 2)) := by
    decide +kernel
  exact ⟨short, (unnamed_addsBeside_iff short rfl none).1.mpr free⟩

/-- A binding that chose the name `__keybinding3` is gone, and its line with it, once a second binding is registered
without a name. -/
theorem unnamed_displaces_chosen :
    let before := ofHistory ⟨"demo"⟩ [⟨{ key := some "a", name := some "__keybinding3" }, none⟩]
    let after := before.register {} none
    before.compile.sections.map InputSection.lines = [["a script-binding python/demo_____keybinding3"]] ∧
    after.compile.sections = [] ∧ before.size = 1 ∧ after.size = 1 ∧ ¬ before.AddsBeside {} none := by
  intro before after
  have one : before.size = 1 := by decide +kernel
  have still : after.size = 1 := by decide +kernel
  refine ⟨by decide +kernel, by decide +kernel, one, still, ?_⟩
  intro beside
  have grows : after.size = before.size + 1 := beside.grows
  omega

end Keymap
end ScriptBridge
