import ScriptBridge.KeyMessage
import ScriptBridge.Proofs.WireForm

/-!
# Decoding key messages

Only the second and the third item of a payload matter. The target has to be a wire form, and the key counts as released
when its state begins with a lower case u.
-/
namespace ScriptBridge

namespace Node

theorem items?_eq_some_iff {node : Node} {items : List Node} : node.items? = some items ↔ node = .array items := by
  cases node <;> simp [items?]

theorem string?_eq_some_iff {node : Node} {text : String} : node.string? = some text ↔ node = .string text := by
  cases node <;> simp [string?]

end Node

namespace KeyMessage
open QualifiedName

theorem isRelease_string_iff {state : String} : isRelease (.string state) = true ↔ ∃ rest, state = "u" ++ rest := by
  simp only [isRelease, Node.string?, decide_eq_true_eq, List.head?_eq_some_iff]
  constructor
  · rintro ⟨rest, chars⟩
    exact ⟨String.ofList rest, String.toList_inj.mp (by simp [chars])⟩
  · rintro ⟨rest, rfl⟩
    exact ⟨rest.toList, by simp⟩

/-- An item that may be missing is a release when it is a text that begins with a lower case u. -/
theorem any_isRelease_iff {item : Option Node} :
    item.any isRelease = true ↔ ∃ rest, item = some (.string ("u" ++ rest)) := by
  constructor
  · intro released
    cases item with
    | none => cases released
    | some node =>
      cases node with
      | string state =>
        obtain ⟨rest, rfl⟩ := isRelease_string_iff.mp released
        exact ⟨rest, rfl⟩
      | none | flag | int64 | double | array | map => cases released
  · rintro ⟨rest, rfl⟩
    exact isRelease_string_iff.mpr ⟨rest, rfl⟩

/-- A payload decodes when its second item is the wire form of an addressable key; the third tells a release. -/
theorem decode_eq_ok_iff {payload : Node} {message : KeyMessage} :
    decode payload = .ok message ↔
      ∃ items, payload = .array items ∧ items[1]? = some (.string message.target.encode) ∧
        SetApart message.target.owner.name.toList ∧ message.released = (items[2]?).any isRelease := by
  constructor
  · intro decoded
    rw [decode] at decoded
    split at decoded
    · cases decoded
    next items list =>
      split at decoded
      · cases decoded
      next target second =>
        split at decoded
        · cases decoded
        next key parsed =>
          cases decoded
          obtain ⟨node, found, text⟩ := Option.bind_eq_some_iff.mp second
          obtain ⟨rfl, apart⟩ := parse?_eq_some_iff.mp parsed
          rw [Node.string?_eq_some_iff.mp text] at found
          exact ⟨items, Node.items?_eq_some_iff.mp list, found, apart, rfl⟩
  · rintro ⟨items, rfl, second, apart, pressed⟩
    have parsed : parse? message.target.encode = some message.target := parse?_eq_some_iff.mpr ⟨rfl, apart⟩
    simp only [decode, Node.items?, second, Option.bind_some, Node.string?, parsed, ← pressed]

/-- A message about a key is read as one about its addressee. -/
theorem decode_ofKey (key : QualifiedName) (state : String) :
    ∃ read, parse? key.encode = some ⟨key.owner.addressee, read⟩ ∧
      decode (Event.ofKey key state).data = .ok ⟨⟨key.owner.addressee, read⟩, isRelease (.string state)⟩ := by
  obtain ⟨read, parsed⟩ := ScriptId.parse?_encode key.owner key.name
  obtain ⟨same, apart⟩ := parse?_eq_some_iff.mp parsed
  exact ⟨read, parsed, decode_eq_ok_iff.mpr ⟨_, rfl, by rw [same]; rfl, apart, rfl⟩⟩

end KeyMessage
end ScriptBridge
