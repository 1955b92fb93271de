import ScriptBridge.Proofs.KeyMessages

/-!
# Which payloads are key messages

Decoding asks three things of a payload, one after another: that it is a list, that the second item is a text, and that
this text holds a separator. The first one that fails is the error; a payload that passes gives the text cut at its
first separator, and as a release what has a third item that is a text and begins with a lower case u. Nothing else of a
payload is looked at, and the payload that the host writes for a key of an addressable script gives that key back.
-/
namespace ScriptBridge

namespace QualifiedName

/-- The text is the key's wire form, and the separator behind the owner is the first one in it. -/
def IsFirstCut (raw : String) (key : QualifiedName) : Prop :=
  raw.toList = key.owner.name.toList ++ separator ++ key.name.toList ∧
  ∀ front back, raw.toList = front ++ separator ++ back → key.owner.name.toList.length ≤ front.length

/-- No separator begins ahead of the one behind a text that is set apart. -/
theorem SetApart.length_le {owner name front back : List Char} (apart : SetApart owner)
    (same : owner ++ separator ++ name = front ++ separator ++ back) : owner.length ≤ front.length := by
  induction owner generalizing front with
  | nil => exact Nat.zero_le _
  | cons head owner ih =>
    cases front with
    | nil =>
      have starts : separator <+: head :: (owner ++ separator ++ name) := ⟨back, same.symm⟩
      exact absurd starts (apart.not_prefix name)
    | cons first front =>
      have rest : owner ++ separator ++ name = front ++ separator ++ back := (List.cons.inj same).2
      exact Nat.succ_le_succ (ih apart.of_cons rest)

theorem IsFirstCut.of_parse? {raw : String} {key : QualifiedName} (parsed : parse? raw = some key) :
    IsFirstCut raw key := by
  obtain ⟨rfl, apart⟩ := parse?_eq_some_iff.mp parsed
  refine ⟨key.toList_encode, fun front back whole => ?_⟩
  rw [toList_encode] at whole
  exact apart.length_le whole

/-- Two keys that a text is cut into at its first separator are the same. -/
theorem IsFirstCut.unique {raw : String} {one two : QualifiedName} (first : IsFirstCut raw one)
    (second : IsFirstCut raw two) : one = two := by
  obtain ⟨⟨ownerOne⟩, nameOne⟩ := one
  obtain ⟨⟨ownerTwo⟩, nameTwo⟩ := two
  have same := first.1.symm.trans second.1
  have length := Nat.le_antisymm (first.2 _ _ second.1) (second.2 _ _ first.1)
  rw [List.append_assoc, List.append_assoc] at same
  obtain ⟨owners, rests⟩ := List.append_inj same length
  have owner : ownerOne = ownerTwo := String.toList_inj.mp owners
  have name : nameOne = nameTwo := String.toList_inj.mp (List.append_cancel_left rests)
  rw [owner, name]

end QualifiedName

namespace KeyMessage
open QualifiedName

/-- What decoding can come to, with what the payload is then. -/
inductive Reads : Node → Except DecodeError KeyMessage → Prop where
  | notAList {payload : Node} (other : ∀ items, payload ≠ .array items) : Reads payload (.error .notAList)
  | missingTarget {items : List Node} (absent : ∀ raw, items[1]? ≠ some (.string raw)) :
      Reads (.array items) (.error .missingTarget)
  | missingSeparator {items : List Node} {raw : String} (second : items[1]? = some (.string raw))
      (uncut : ¬ separator <:+: raw.toList) : Reads (.array items) (.error (.missingSeparator raw))
  | message {items : List Node} {raw : String} {key : QualifiedName} (second : items[1]? = some (.string raw))
      (cut : IsFirstCut raw key) : Reads (.array items) (.ok ⟨key, (items[2]?).any isRelease⟩)

theorem reads_decode (payload : Node) : Reads payload (decode payload) := by
  rw [decode]
  split
  next scalar =>
    refine .notAList fun items list => ?_
    rw [list] at scalar
    cases scalar
  next items list =>
    rw [Node.items?_eq_some_iff.mp list]
    split
    next untold =>
      refine .missingTarget fun raw second => ?_
      rw [second] at untold
      cases untold
    next raw told =>
      obtain ⟨node, second, text⟩ := Option.bind_eq_some_iff.mp told
      rw [Node.string?_eq_some_iff.mp text] at second
      split
      next unread =>
        refine .missingSeparator second fun holds => ?_
        rw [← parse?_isSome_iff, unread] at holds
        cases holds
      next key parsed => exact .message second (.of_parse? parsed)

/-- Each thing that decoding can come to, with the exact condition on the payload. -/
structure DecodesExactly (payload : Node) : Prop where
  notAList : decode payload = .error .notAList ↔ ∀ items, payload ≠ .array items
  missingTarget : decode payload = .error .missingTarget ↔
    ∃ items, payload = .array items ∧ ∀ raw, items[1]? ≠ some (.string raw)
  missingSeparator : ∀ raw, decode payload = .error (.missingSeparator raw) ↔
    ∃ items, payload = .array items ∧ items[1]? = some (.string raw) ∧ ¬ separator <:+: raw.toList
  accepted : ∀ message, decode payload = .ok message ↔
    ∃ items raw, payload = .array items ∧ items[1]? = some (.string raw) ∧ IsFirstCut raw message.target ∧
      (message.released = true ↔ ∃ rest, items[2]? = some (.string ("u" ++ rest)))

theorem decodesExactly (payload : Node) : DecodesExactly payload := by
  have read := reads_decode payload
  generalize decoded : decode payload = outcome at read
  constructor
  · rw [decoded]
    constructor
    · rintro rfl
      cases read with
      | notAList other => exact other
    · intro other
      cases read with
      | notAList _ => rfl
      | missingTarget _ | missingSeparator _ _ | message _ _ => exact absurd rfl (other _)
  · rw [decoded]
    constructor
    · rintro rfl
      cases read with
      | missingTarget absent => exact ⟨_, rfl, absent⟩
    · rintro ⟨items, rfl, absent⟩
      cases read with
      | notAList other => exact absurd rfl (other items)
      | missingTarget _ => rfl
      | missingSeparator second _ | message second _ => exact absurd second (absent _)
  · intro raw
    rw [decoded]
    constructor
    · rintro rfl
      cases read with
      | missingSeparator second uncut => exact ⟨_, rfl, second, uncut⟩
    · rintro ⟨items, rfl, second, uncut⟩
      cases read with
      | notAList other => exact absurd rfl (other items)
      | missingTarget absent => exact absurd second (absent raw)
      | missingSeparator other _ =>
        cases second.symm.trans other
        rfl
      | message other cut =>
        cases second.symm.trans other
        exact absurd ⟨_, _, cut.1.symm⟩ uncut
  · intro message
    rw [decoded]
    constructor
    · rintro rfl
      cases read with
      | message second cut => exact ⟨_, _, rfl, second, cut, any_isRelease_iff⟩
    · rintro ⟨items, raw, rfl, second, cut, pressed⟩
      cases read with
      | notAList other => exact absurd rfl (other items)
      | missingTarget absent => exact absurd second (absent raw)
      | missingSeparator other uncut =>
        cases second.symm.trans other
        exact absurd ⟨_, _, cut.1.symm⟩ uncut
      | message other read =>
        obtain ⟨target, released⟩ := message
        cases second.symm.trans other
        have release : (items[2]?).any isRelease = released := Bool.eq_iff_iff.mpr (any_isRelease_iff.trans pressed.symm)
        rw [read.unique cut, release]

/-- Every payload is decoded by what it is: the errors have their conditions in this order, and a payload that meets none of
them gives the key at the first separator, with a release exactly for a state that begins with a lower case u. Lists that
agree in their second and third items are decoded alike, whatever else they hold and however long they are. The payload
for a key of an addressable script is decoded to that key. -/
theorem decoding_exact :
    (∀ payload : Node, DecodesExactly payload) ∧
    (∀ items others : List Node, items[1]? = others[1]? → items[2]? = others[2]? →
      decode (.array items) = decode (.array others)) ∧
    (∀ (key : QualifiedName) (state : String), key.owner.IsAddressable →
      ∃ released, decode (Event.ofKey key state).data = .ok ⟨key, released⟩ ∧
        (released = true ↔ ∃ rest, state = "u" ++ rest)) := by
  refine ⟨decodesExactly, ?_, ?_⟩
  · intro items others second third
    simp only [decode, Node.items?, second, third]
  · intro key state addressable
    exact ⟨isRelease (.string state), decode_eq_ok_iff.mpr ⟨_, rfl, rfl, addressable, rfl⟩, isRelease_string_iff⟩

/-- A key in whose wire form five underscores stand together, in lists of two and of four items: the name keeps the last
two. Two underscores are no separator, and a list as second item is no target. -/
theorem decoding_exact_underscored :
    let key : QualifiedName := ⟨⟨"a"⟩, "__b"⟩
    let target : Node := .string key.encode
    decode (.array [.none, target]) = decode (.array [.array [], target]) ∧
    (∃ released, decode (Event.ofKey key "up").data = .ok ⟨key, released⟩ ∧
      (released = true ↔ ∃ rest, "up" = "u" ++ rest)) ∧
    decode (.array [.none, .string "a__b", .string "u"]) = .error (.missingSeparator "a__b") ∧
    decode (.array [.none, .array [target], .string "u"]) = .error .missingTarget := by
  intro key target
  have addressable : key.owner.IsAddressable := by decide +kernel
  have uncut : ¬ separator <:+: "a__b".toList := by decide +kernel
  refine ⟨decoding_exact.2.1 _ _ rfl rfl, decoding_exact.2.2 key "up" addressable, ?_, ?_⟩
  · exact ((decoding_exact.1 _).missingSeparator "a__b").mpr ⟨_, rfl, rfl, uncut⟩
  · exact (decoding_exact.1 _).missingTarget.mpr ⟨_, rfl, by simp⟩

end KeyMessage
end ScriptBridge
