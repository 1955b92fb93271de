import Mathlib.Data.List.Induction
import ScriptBridge.Binding.Keymap

/-!
# Histories of registrations

The keymap of a script comes about by registrations, one after another. The id, the name and the record that one of them
is filed with depend on its place in this history, on what it asks for and on the script's identity, and on nothing
that was registered before it.
-/
namespace ScriptBridge

/-- One registration, with the callback that is attached to it, if there is one. -/
structure Registration where
  request : BindingRequest
  callback : Option Callback := none

namespace Registration

/-- The id that is drawn at a place of a history. -/
def idAt (index : Nat) : UInt64 := UInt64.ofNat (index + 2)

def nameAt (registration : Registration) (index : Nat) : String :=
  registration.request.name.getD (defaultName (idAt index))

def recordAt (identity : ScriptId) (registration : Registration) (index : Nat) : Binding :=
  { id := idAt index
    name := registration.nameAt index
    key := registration.request.key
    input := registration.request.key.map fun key => inputLine key ⟨identity, registration.nameAt index⟩
    builtin := registration.request.builtin
    options := registration.request.options }

theorem toNat_idAt {index : Nat} (small : index + 2 < UInt64.size) : (idAt index).toNat = index + 2 :=
  UInt64.toNat_ofNat_of_lt' small

theorem idAt_injective {first second : Nat} (firstSmall : first + 2 < UInt64.size)
    (secondSmall : second + 2 < UInt64.size) (same : idAt first = idAt second) : first = second := by
  have numbers := congrArg UInt64.toNat same
  rw [toNat_idAt firstSmall, toNat_idAt secondSmall] at numbers
  omega

end Registration

/-- The registrations on one keymap, the first one in front. -/
abbrev History := List Registration

namespace History
open Registration

def names (history : History) : List String := history.mapIdx fun index registration => registration.nameAt index

def records (identity : ScriptId) (history : History) : List Binding :=
  history.mapIdx fun index registration => registration.recordAt identity index

/-- The registrations that are filed under one name. -/
def under (history : History) (name : String) : List Registration :=
  (history.zipIdx.filter fun entry => entry.1.nameAt entry.2 = name).map Prod.fst

variable (identity : ScriptId) (history : History) (registration : Registration)

theorem names_concat : names (history ++ [registration]) = history.names ++ [registration.nameAt history.length] := by
  rw [names, List.mapIdx_concat, names]

theorem records_concat :
    records identity (history ++ [registration]) =
      history.records identity ++ [registration.recordAt identity history.length] := by
  rw [records, List.mapIdx_concat, records]

theorem under_concat (name : String) :
    under (history ++ [registration]) name =
      history.under name ++ if registration.nameAt history.length = name then [registration] else [] := by
  simp only [under, List.zipIdx_append, List.filter_append, List.map_append]
  by_cases named : registration.nameAt history.length = name <;> simp [named]

theorem map_name_records : (history.records identity).map Binding.name = history.names := by
  induction history using List.reverseRecOn with
  | nil => rfl
  | append_singleton history registration ih =>
    rw [records_concat, List.map_append, ih, names_concat]
    rfl

end History

namespace Keymap
open Registration

def ofHistory (identity : ScriptId) (history : History) : Keymap :=
  history.foldl (fun keymap registration => keymap.register registration.request registration.callback)
    { identity := identity }

section Register
variable (keymap : Keymap) (request : BindingRequest) (callback : Option Callback)

@[simp] theorem identity_register : (keymap.register request callback).identity = keymap.identity := by
  cases callback <;> rfl

@[simp] theorem lastId_register : (keymap.register request callback).lastId = keymap.nextId := by
  cases callback <;> rfl

theorem records_register :
    (keymap.register request callback).records =
      keymap.records.filter (·.name ≠ keymap.effectiveName request) ++ [keymap.recordOf request] := by
  cases callback <;> rfl

/-- The record of a registration takes the place of the one with its name, and of no other. -/
theorem get?_register (name : String) :
    (keymap.register request callback).get? name =
      if name = keymap.effectiveName request then some (keymap.recordOf request) else keymap.get? name := by
  rw [get?, records_register, List.find?_append]
  by_cases named : name = keymap.effectiveName request
  · subst named
    have gone : (keymap.records.filter (·.name ≠ keymap.effectiveName request)).find?
        (·.name = keymap.effectiveName request) = none := by
      simp
    have found : [keymap.recordOf request].find? (·.name = keymap.effectiveName request) =
        some (keymap.recordOf request) := by
      simp [recordOf]
    rw [gone, found, Option.none_or, if_pos rfl]
  · have kept : (keymap.records.filter (·.name ≠ keymap.effectiveName request)).find? (·.name = name) =
        keymap.get? name := by
      rw [List.find?_filter, get?]
      refine congrArg (keymap.records.find? ·) (funext fun binding => ?_)
      by_cases same : binding.name = name <;> simp [same, named]
    have absent : [keymap.recordOf request].find? (·.name = name) = none := by
      simp [recordOf, Ne.symm named]
    rw [kept, absent, Option.or_none, if_neg named]

/-- A registration without a callback leaves the callbacks as they are. -/
theorem callback?_register (name : String) :
    (keymap.register request callback).callback? name =
      if name = keymap.effectiveName request then callback.or (keymap.callback? name) else keymap.callback? name := by
  cases callback with
  | none =>
    rw [register, callback?_add, Option.none_or, ite_self]
  | some callback =>
    rw [register, callback?_bind, callback?_add, Option.some_or]

end Register

variable (identity : ScriptId) (history : History) (registration : Registration)

theorem ofHistory_concat :
    ofHistory identity (history ++ [registration]) =
      (ofHistory identity history).register registration.request registration.callback := by
  rw [ofHistory, List.foldl_append, List.foldl_cons, List.foldl_nil, ofHistory]

theorem identity_ofHistory : (ofHistory identity history).identity = identity := by
  -- as in all that follows, the induction adds a registration at the end, where the fold adds it
  induction history using List.reverseRecOn with
  | nil => rfl
  | append_singleton history registration ih => rw [ofHistory_concat, identity_register, ih]

theorem nextId_ofHistory : (ofHistory identity history).nextId = idAt history.length := by
  induction history using List.reverseRecOn with
  | nil => rfl
  | append_singleton history registration ih =>
    have drawn : (ofHistory identity history).nextId + 1 = idAt (history.length + 1) := by
      rw [ih, idAt, idAt, ← UInt64.ofNat_one, ← UInt64.ofNat_add]
    rw [ofHistory_concat, nextId, lastId_register, drawn, List.length_append, List.length_singleton]

theorem effectiveName_ofHistory :
    (ofHistory identity history).effectiveName registration.request = registration.nameAt history.length := by
  rw [effectiveName, nextId_ofHistory, nameAt]

theorem recordOf_ofHistory :
    (ofHistory identity history).recordOf registration.request = registration.recordAt identity history.length := by
  simp only [recordOf, recordAt, effectiveName_ofHistory, nextId_ofHistory, identity_ofHistory]

theorem records_ofHistory_concat :
    (ofHistory identity (history ++ [registration])).records =
      (ofHistory identity history).records.filter (·.name ≠ registration.nameAt history.length) ++
        [registration.recordAt identity history.length] := by
  rw [ofHistory_concat, records_register, effectiveName_ofHistory, recordOf_ofHistory]

end Keymap
end ScriptBridge
