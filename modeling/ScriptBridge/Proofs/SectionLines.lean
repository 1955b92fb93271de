import ScriptBridge.Proofs.KeyMessages
import ScriptBridge.Proofs.Registration

/-!
# Where the lines of the sections lead

A section holds exactly the input lines of the bindings with its flag. The host takes the target from such a line and
sends it back when the key is released; for an addressable identity that runs the callback of the line's own binding, and
for any other identity it runs nothing, because the target reads as another script's.
-/
namespace ScriptBridge

namespace Keymap

theorem mem_inputLines_iff {keymap : Keymap} {builtin : Bool} {line : String} :
    line ∈ keymap.inputLines builtin ↔
      ∃ binding ∈ keymap.bindings, binding.builtin = builtin ∧ binding.input = some line := by
  simp only [inputLines, List.mem_filterMap, List.mem_filter, decide_eq_true_eq]
  constructor
  · rintro ⟨binding, ⟨filed, flag⟩, input⟩
    exact ⟨binding, filed, flag, input⟩
  · rintro ⟨binding, filed, flag, input⟩
    exact ⟨binding, ⟨filed, flag⟩, input⟩

/-- The section of the bindings with a flag, whether it has lines or not. -/
def sectionWith (keymap : Keymap) (builtin : Bool) : InputSection :=
  { name := if builtin then keymap.identity.builtinSectionName else keymap.identity.sectionName
    location := keymap.identity.sectionLocation
    lines := sortLines (keymap.inputLines builtin)
    builtin := builtin
    owner := keymap.identity.name }

theorem compile_eq (keymap : Keymap) :
    keymap.compile =
      { builtin := if keymap.inputLines true = [] then none else some (keymap.sectionWith true)
        regular := if keymap.inputLines false = [] then none else some (keymap.sectionWith false) } := by
  simp only [compile, compileSection, sectionWith, List.isEmpty_iff, Bool.false_eq_true, ↓reduceIte]

theorem mem_sections_iff {keymap : Keymap} {compiled : InputSection} :
    compiled ∈ keymap.compile.sections ↔
      ∃ builtin, keymap.inputLines builtin ≠ [] ∧ compiled = keymap.sectionWith builtin := by
  rw [compile_eq, Bool.exists_bool, or_comm]
  simp only [SectionPair.sections, List.mem_append, Option.mem_toList]
  by_cases builtin : keymap.inputLines true = [] <;> by_cases regular : keymap.inputLines false = [] <;>
    simp [builtin, regular, eq_comm]

/-- The lines of the compiled sections are the input lines of the bindings, each in the section with its flag. -/
theorem exists_section_iff {keymap : Keymap} {line : String} {builtin : Bool} :
    (∃ compiled ∈ keymap.compile.sections, compiled.builtin = builtin ∧ line ∈ compiled.lines) ↔
      ∃ binding ∈ keymap.bindings, binding.builtin = builtin ∧ binding.input = some line := by
  rw [← mem_inputLines_iff]
  constructor
  · rintro ⟨compiled, present, rfl, inside⟩
    obtain ⟨builtin, _, rfl⟩ := mem_sections_iff.mp present
    exact List.mem_mergeSort.mp inside
  · intro inside
    have present := mem_sections_iff.mpr ⟨builtin, List.ne_nil_of_mem inside, rfl⟩
    exact ⟨keymap.sectionWith builtin, present, rfl, List.mem_mergeSort.mpr inside⟩

end Keymap

namespace ScriptState
open QualifiedName

/-- A message that carries the target of a line and reports a release. -/
def Releases (event : Event) (target : String) : Prop :=
  event.isKind .clientMessage = true ∧
  ∃ items state, event.data = .array items ∧ items[1]? = some (.string target) ∧
    items[2]? = some (.string ("u" ++ state))

theorem releases_ofKey (key : QualifiedName) (state : String) : Releases (.ofKey key ("u" ++ state)) key.encode :=
  ⟨rfl, _, state, rfl, rfl, rfl⟩

theorem decode_of_release {identity : ScriptId} {event : Event} {name : String} (addressable : identity.IsAddressable)
    (released : Releases event (encode ⟨identity, name⟩)) :
    event.isKind .clientMessage = true ∧ KeyMessage.decode event.data = .ok ⟨⟨identity, name⟩, true⟩ := by
  obtain ⟨client, items, state, list, second, third⟩ := released
  have pressed : (items[2]?).any KeyMessage.isRelease = true := by
    rw [third, Option.any_some, KeyMessage.isRelease_string_iff]
    exact ⟨state, rfl⟩
  exact ⟨client, KeyMessage.decode_eq_ok_iff.mpr ⟨items, list, second, addressable, pressed.symm⟩⟩

theorem fires_of_release {script : ScriptState} {event : Event} {name : String} {callback : Callback}
    (addressable : script.identity.IsAddressable) (released : Releases event (encode ⟨script.identity, name⟩))
    (filed : script.keymap.callback? name = some callback) : script.Fires event name callback := by
  obtain ⟨client, decoded⟩ := decode_of_release addressable released
  exact fires_of_route (route_eq_run_iff.mpr ⟨client, decoded, filed⟩)

/-- A message under the wire form of an identity that is not addressable is foreign even to that identity. -/
theorem settles_of_release {script : ScriptState} {event : Event} {name : String}
    (hidden : ¬ script.identity.IsAddressable) (released : Releases event (encode ⟨script.identity, name⟩)) :
    script.Settles event .foreign := by
  obtain ⟨client, items, state, list, second, third⟩ := released
  obtain ⟨read, parsed⟩ := ScriptId.parse?_encode script.identity name
  obtain ⟨same, apart⟩ := parse?_eq_some_iff.mp parsed
  have decoded : KeyMessage.decode event.data =
      .ok ⟨⟨script.identity.addressee, read⟩, (items[2]?).any KeyMessage.isRelease⟩ :=
    KeyMessage.decode_eq_ok_iff.mpr ⟨items, list, by rw [second, same], apart, rfl⟩
  have other : script.identity.addressee ≠ script.identity := fun equal =>
    hidden ((ScriptId.addressee_eq_self_iff _).mp equal)
  exact settles_of_route (route_of_foreign client decoded other)

/-- Every line of the compiled sections is the input line of a binding; and the target in the input line of a binding
that has a callback leads back to this callback if the identity is addressable, and to nothing if it is not. -/
theorem section_lines_lead_back {identity : ScriptId} {script : ScriptState} (reachable : script.Reachable identity) :
    (∀ compiled ∈ script.keymap.compile.sections, ∀ line ∈ compiled.lines,
      ∃ binding ∈ script.keymap.bindings, binding.builtin = compiled.builtin ∧ binding.input = some line) ∧
    ∀ binding ∈ script.keymap.bindings, ∀ key, binding.key = some key →
      ∃ target, binding.input = some (key ++ " script-binding python/" ++ target) ∧
        (∃ compiled ∈ script.keymap.compile.sections, compiled.builtin = binding.builtin ∧
          key ++ " script-binding python/" ++ target ∈ compiled.lines) ∧
        ∀ event, Releases event target →
          (identity.IsAddressable → ∀ callback, script.keymap.callback? binding.name = some callback →
            script.Fires event binding.name callback) ∧
          (¬ identity.IsAddressable → script.Settles event .foreign) := by
  have coherent := reachable.coherent
  refine ⟨?_, ?_⟩
  · intro compiled present line inside
    exact Keymap.exists_section_iff.mp ⟨compiled, present, rfl, inside⟩
  · intro binding filed key keyed
    have input : binding.input = some (key ++ " script-binding python/" ++ encode ⟨identity, binding.name⟩) := by
      rw [coherent.input_eq binding filed, lineOf, keyed, Option.map_some, inputLine, bindingCommand]
      simp only [String.append_assoc]
      rfl
    refine ⟨encode ⟨identity, binding.name⟩, input, ?_, ?_⟩
    · exact Keymap.exists_section_iff.mpr ⟨binding, filed, rfl, input⟩
    · intro event released
      rw [← coherent.identity_eq] at released ⊢
      exact ⟨fun addressable callback bound => fires_of_release addressable released bound,
        fun hidden => settles_of_release hidden released⟩

/-- A name that holds the separator and a key with a blank and a slash: the release of the line's target runs the
callback all the same. -/
theorem section_lines_lead_back_cut :
    let callback : Callback := { body := fun _ => pure (.ok ()) }
    let request : BindingRequest := { key := some "ctrl+x a/b", name := some "cut___now" }
    let script := (fresh ⟨"my_demo"⟩).register request (some callback)
    ∃ binding ∈ script.keymap.bindings, ∃ target,
      binding.input = some ("ctrl+x a/b" ++ " script-binding python/" ++ target) ∧
      ∀ event, Releases event target → script.Fires event "cut___now" callback := by
  intro callback request script
  have reachable : script.Reachable ⟨"my_demo"⟩ := .register .fresh request (some callback)
  let binding := (Keymap.mk ⟨"my_demo"⟩ 1 [] []).recordOf request
  have filed : binding ∈ script.keymap.bindings := List.mem_singleton_self binding
  have bound : script.keymap.callback? "cut___now" = some callback := Keymap.callback?_bind _ _ _ callback
  obtain ⟨target, input, _, leads⟩ := (section_lines_lead_back reachable).2 binding filed "ctrl+x a/b" rfl
  have addressable : ScriptId.IsAddressable ⟨"my_demo"⟩ := by decide +kernel
  exact ⟨binding, filed, target, input, fun event released => (leads event released).1 addressable callback bound⟩

end ScriptState
end ScriptBridge
