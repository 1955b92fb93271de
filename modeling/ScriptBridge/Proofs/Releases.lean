import ScriptBridge.Proofs.Answering
import ScriptBridge.Proofs.KeyMessages

/-!
# Released keys

Of all events only client messages that report the release of a key can make a script run a callback. What such an event
does to a script depends on the key that is read from it, and on the payload in no other way.
-/
namespace ScriptBridge
open QualifiedName

/-- The key whose release the event reports. -/
def Event.released? (event : Event) : Option QualifiedName :=
  if event.isKind .clientMessage then
    match KeyMessage.decode event.data with
    | .ok message => if message.released then some message.target else none
    | .error _ => none
  else none

theorem Event.released?_eq_some_iff {event : Event} {key : QualifiedName} :
    event.released? = some key ↔
      event.isKind .clientMessage = true ∧ KeyMessage.decode event.data = .ok ⟨key, true⟩ := by
  unfold released?
  by_cases client : event.isKind .clientMessage = true
  · rw [if_pos client]
    cases KeyMessage.decode event.data with
    | error cause => simp
    | ok message =>
      obtain ⟨target, released⟩ := message
      cases released
      · simp
      · simp [client]
  · rw [if_neg client]
    simp [client]

/-- In the payload: the second item is the wire form of the key, and the third one begins with a lower case u. -/
theorem Event.released?_eq_some_iff_items {event : Event} {key : QualifiedName} :
    event.released? = some key ↔ event.isKind .clientMessage = true ∧ SetApart key.owner.name.toList ∧
      ∃ items rest, event.data = .array items ∧ items[1]? = some (.string key.encode) ∧
        items[2]? = some (.string ("u" ++ rest)) := by
  rw [released?_eq_some_iff, KeyMessage.decode_eq_ok_iff]
  constructor
  · rintro ⟨client, items, list, second, apart, pressed⟩
    obtain ⟨rest, third⟩ := KeyMessage.any_isRelease_iff.mp pressed.symm
    exact ⟨client, apart, items, rest, list, second, third⟩
  · rintro ⟨client, apart, items, rest, list, second, third⟩
    exact ⟨client, items, list, second, apart, (KeyMessage.any_isRelease_iff.mpr ⟨rest, third⟩).symm⟩

/-- The event that the host writes for a key is read as the release of a key when the state begins so. -/
theorem Event.released?_ofKey {key read : QualifiedName} (parsed : parse? key.encode = some read) (state : String) :
    (Event.ofKey key state).released? = if KeyMessage.isRelease (.string state) then some read else none := by
  obtain ⟨same, apart⟩ := parse?_eq_some_iff.mp parsed
  have decoded : KeyMessage.decode (Event.ofKey key state).data =
      .ok ⟨read, KeyMessage.isRelease (.string state)⟩ :=
    KeyMessage.decode_eq_ok_iff.mpr ⟨_, rfl, by rw [same]; rfl, apart, rfl⟩
  have client : (Event.ofKey key state).isKind .clientMessage = true := rfl
  unfold released?
  rw [if_pos client, decoded]

namespace ScriptState

section Route
variable {script : ScriptState} {event : Event}

/-- The release of a script's own key runs the callback under the name of the key. -/
theorem route_of_own {name : String} {callback : Callback}
    (released : event.released? = some ⟨script.identity, name⟩) (filed : script.keymap.callback? name = some callback) :
    script.route event = .run name callback := by
  obtain ⟨client, decoded⟩ := Event.released?_eq_some_iff.mp released
  exact route_eq_run_iff.mpr ⟨client, decoded, filed⟩

theorem route_of_unbound {name : String} (released : event.released? = some ⟨script.identity, name⟩)
    (bare : script.keymap.callback? name = none) : script.route event = .settled (.noCallback name) := by
  obtain ⟨client, decoded⟩ := Event.released?_eq_some_iff.mp released
  exact route_of_noCallback client decoded bare

theorem route_of_others {key : QualifiedName} (released : event.released? = some key)
    (other : key.owner ≠ script.identity) : script.route event = .settled .foreign := by
  obtain ⟨client, decoded⟩ := Event.released?_eq_some_iff.mp released
  exact route_of_foreign client decoded other

/-- An event that reports no release is settled by every script. -/
theorem exists_settled (script : ScriptState) (quiet : event.released? = none) :
    ∃ answer, script.route event = .settled answer := by
  cases routed : script.route event with
  | settled answer => exact ⟨answer, rfl⟩
  | run name callback =>
    obtain ⟨client, decoded, _⟩ := route_eq_run_iff.mp routed
    rw [Event.released?_eq_some_iff.mpr ⟨client, decoded⟩] at quiet
    cases quiet

end Route

end ScriptState
end ScriptBridge
