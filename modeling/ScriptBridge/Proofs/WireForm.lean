import ScriptBridge.QualifiedName

/-!
# The wire form of qualified names

Cutting a wire form at its first separator gives back the owner exactly when the owner holds no separator and does not
end in an underscore: an underscore at its end would run together with the separator behind it. For any other owner
the first separator begins inside the owner, and the message is addressed to what stands in front of it. Read the other way
round, every text that holds a separator is the wire form of exactly one name with an owner of the first kind.
-/
namespace ScriptBridge
namespace QualifiedName

/-- A text that keeps apart from a separator written behind it. -/
def SetApart (text : List Char) : Prop := ¬ separator <:+: text ∧ ¬ ['_'] <:+ text

instance (text : List Char) : Decidable (SetApart text) :=
  inferInstanceAs (Decidable (¬ separator <:+: text ∧ ¬ ['_'] <:+ text))

theorem setApart_nil : SetApart [] := by decide

theorem SetApart.of_cons {head : Char} {rest : List Char} (apart : SetApart (head :: rest)) : SetApart rest :=
  ⟨fun inside => apart.1 (inside.trans (List.suffix_cons head rest).isInfix),
    fun last => apart.2 (last.trans (List.suffix_cons head rest))⟩

/-- No separator begins inside a text that is set apart, whatever follows the one behind it. -/
theorem SetApart.not_prefix {head : Char} {front : List Char} (apart : SetApart (head :: front)) (back : List Char) :
    ¬ separator <+: head :: (front ++ separator ++ back) := by
  intro starts
  match front with
  | [] =>
    obtain ⟨rfl, _⟩ := List.cons_prefix_cons.mp starts
    exact apart.2 (List.suffix_refl _)
  | [second] =>
    obtain ⟨rfl, inner⟩ := List.cons_prefix_cons.mp starts
    obtain ⟨rfl, _⟩ := List.cons_prefix_cons.mp inner
    exact apart.2 (List.suffix_cons _ _)
  | second :: third :: more =>
    obtain ⟨rfl, inner⟩ := List.cons_prefix_cons.mp starts
    obtain ⟨rfl, innermost⟩ := List.cons_prefix_cons.mp inner
    obtain ⟨rfl, _⟩ := List.cons_prefix_cons.mp innermost
    exact apart.1 ⟨[], more, rfl⟩

/-- Cutting finds the separator behind a text that is set apart. -/
theorem split?_append {front : List Char} (apart : SetApart front) (back : List Char) :
    split? (front ++ separator ++ back) = some (front, back) := by
  induction front with
  | nil => rfl
  | cons head front ih =>
    have inside : separator.isPrefixOf (head :: (front ++ separator ++ back)) = false := by
      rw [Bool.eq_false_iff, Ne, List.isPrefixOf_iff_prefix]
      exact apart.not_prefix back
    simp only [List.cons_append, split?, inside, ih apart.of_cons, Option.map_some, Bool.false_eq_true, ↓reduceIte]

theorem split?_sound {text front back : List Char} (cut : split? text = some (front, back)) :
    text = front ++ separator ++ back ∧ SetApart front := by
  induction text generalizing front back with
  | nil => cases cut
  | cons head rest ih =>
    rw [split?] at cut
    split at cut
    case isTrue starts =>
      obtain ⟨more, whole⟩ := List.isPrefixOf_iff_prefix.mp starts
      rw [separator, List.cons_append, List.cons.injEq] at whole
      obtain ⟨rfl, rfl⟩ := whole
      cases cut
      exact ⟨rfl, setApart_nil⟩
    case isFalse absent =>
      rw [List.isPrefixOf_iff_prefix] at absent
      obtain ⟨⟨inner, behind⟩, found, parts⟩ := Option.map_eq_some_iff.mp cut
      cases parts
      obtain ⟨rfl, apart⟩ := ih found
      refine ⟨rfl, ?_, ?_⟩
      · intro inside
        rcases List.infix_cons_iff.mp inside with starts | inside
        · exact absent (starts.trans ⟨separator ++ behind, by simp⟩)
        · exact apart.1 inside
      · intro last
        rcases List.suffix_cons_iff.mp last with whole | last
        · -- the owner would be a single underscore, and the separator would begin with it
          cases whole
          exact absent ⟨'_' :: behind, rfl⟩
        · exact apart.2 last

/-- Cutting gives the two parts of the text around a separator of which the front one is set apart. -/
theorem split?_eq_some_iff {text front back : List Char} :
    split? text = some (front, back) ↔ text = front ++ separator ++ back ∧ SetApart front := by
  constructor
  · exact split?_sound
  · rintro ⟨rfl, apart⟩
    exact split?_append apart back

theorem split?_isSome {text : List Char} (holds : separator <:+: text) : (split? text).isSome := by
  induction text with
  | nil => simp [separator] at holds
  | cons head rest ih =>
    rw [split?]
    split
    · rfl
    next absent =>
      rw [Option.isSome_map]
      rcases List.infix_cons_iff.mp holds with starts | inside
      · exact absurd (List.isPrefixOf_iff_prefix.mpr starts) absent
      · exact ih inside

theorem toList_encode (key : QualifiedName) :
    key.encode.toList = key.owner.name.toList ++ separator ++ key.name.toList := by
  rw [encode, String.toList_ofList]

/-- A wire form is read as the qualified names that are written so and whose owner is set apart. -/
theorem parse?_eq_some_iff {raw : String} {key : QualifiedName} :
    parse? raw = some key ↔ raw = key.encode ∧ SetApart key.owner.name.toList := by
  obtain ⟨⟨owner⟩, name⟩ := key
  rw [parse?, Option.map_eq_some_iff]
  constructor
  · rintro ⟨⟨front, back⟩, cut, same⟩
    cases same
    obtain ⟨whole, apart⟩ := split?_eq_some_iff.mp cut
    refine ⟨String.toList_inj.mp ?_, ?_⟩
    · simpa only [toList_encode, String.toList_ofList] using whole
    · simpa only [String.toList_ofList] using apart
  · rintro ⟨rfl, apart⟩
    refine ⟨(owner.toList, name.toList), ?_, ?_⟩
    · rw [toList_encode]
      exact split?_eq_some_iff.mpr ⟨rfl, apart⟩
    · simp only [String.ofList_toList]

theorem parse?_isSome_iff {raw : String} : (parse? raw).isSome = true ↔ separator <:+: raw.toList := by
  constructor
  · intro readable
    obtain ⟨key, parsed⟩ := Option.isSome_iff_exists.mp readable
    obtain ⟨rfl, _⟩ := parse?_eq_some_iff.mp parsed
    rw [toList_encode]
    exact ⟨key.owner.name.toList, key.name.toList, rfl⟩
  · intro holds
    rw [parse?, Option.isSome_map]
    exact split?_isSome holds

end QualifiedName

namespace ScriptId
open QualifiedName

/-- An identity to which messages can be addressed: the wire form of its names leads back to it. -/
def IsAddressable (identity : ScriptId) : Prop := SetApart identity.name.toList

instance (identity : ScriptId) : Decidable identity.IsAddressable :=
  inferInstanceAs (Decidable (SetApart identity.name.toList))

/-- The owner that is read from what is written for an identity: the text in front of the first separator when one
stands behind the identity. -/
def addressee (identity : ScriptId) : ScriptId :=
  ((parse? (encode ⟨identity, ""⟩)).map owner).getD identity

/-- Whatever name is written for an identity, its addressee is read. -/
theorem parse?_encode (identity : ScriptId) (name : String) :
    ∃ read, parse? (encode ⟨identity, name⟩) = some ⟨identity.addressee, read⟩ := by
  have holds : separator <:+: identity.name.toList ++ separator ++ "".toList :=
    ⟨identity.name.toList, [], by simp⟩
  obtain ⟨⟨front, back⟩, cut⟩ := Option.isSome_iff_exists.mp (split?_isSome holds)
  have alone : identity.addressee = ⟨String.ofList front⟩ := by
    simp only [addressee, parse?, toList_encode, cut, Option.map_some, Option.getD_some]
  obtain ⟨whole, apart⟩ := split?_eq_some_iff.mp cut
  refine ⟨String.ofList (back ++ name.toList), parse?_eq_some_iff.mpr ⟨String.toList_inj.mp ?_, ?_⟩⟩
  · simp only [toList_encode, alone, String.toList_ofList]
    rw [← List.append_assoc, ← whole]
    simp
  · simpa only [alone, String.toList_ofList] using apart

/-- What is read from a wire form is addressable, whatever was written. -/
theorem addressee_isAddressable (identity : ScriptId) : identity.addressee.IsAddressable := by
  obtain ⟨read, parsed⟩ := parse?_encode identity ""
  exact (parse?_eq_some_iff.mp parsed).2

/-- The addressee of an identity is the addressable one whose own wire form can be the beginning of its wire form. -/
theorem addressee_eq_iff {identity other : ScriptId} :
    identity.addressee = other ↔ other.IsAddressable ∧ ∃ rest, encode ⟨identity, ""⟩ = encode ⟨other, rest⟩ := by
  constructor
  · rintro rfl
    obtain ⟨read, parsed⟩ := parse?_encode identity ""
    exact ⟨addressee_isAddressable identity, read, (parse?_eq_some_iff.mp parsed).1⟩
  · rintro ⟨apart, rest, same⟩
    have parsed : parse? (encode ⟨identity, ""⟩) = some ⟨other, rest⟩ := parse?_eq_some_iff.mpr ⟨same, apart⟩
    simp only [addressee, parsed, Option.map_some, Option.getD_some]

/-- Addressable identities are those that are read as themselves. -/
theorem addressee_eq_self_iff (identity : ScriptId) : identity.addressee = identity ↔ identity.IsAddressable := by
  rw [addressee_eq_iff]
  exact ⟨fun own => own.1, fun apart => ⟨apart, "", rfl⟩⟩

end ScriptId

namespace QualifiedName
open ScriptId

/-- Qualified names with addressable owners are written apart, whatever the names are. -/
theorem encode_injective {first second : QualifiedName} (firstAddressable : first.owner.IsAddressable)
    (secondAddressable : second.owner.IsAddressable) (same : first.encode = second.encode) : first = second := by
  have readFirst : parse? first.encode = some first := parse?_eq_some_iff.mpr ⟨rfl, firstAddressable⟩
  have readSecond : parse? first.encode = some second := parse?_eq_some_iff.mpr ⟨same, secondAddressable⟩
  exact Option.some.inj (readFirst.symm.trans readSecond)

/-- The texts that can be read are those that hold the separator; what is read is written as it was, and its owner is
addressable. A qualified name is read back from its wire form exactly when its owner is addressable, and so no two such
names share a wire form. -/
theorem wire_form_exact :
    (∀ raw : String, (parse? raw).isSome = true ↔ separator <:+: raw.toList) ∧
    (∀ (raw : String) (key : QualifiedName), parse? raw = some key → key.encode = raw ∧
      ¬ separator <:+: key.owner.name.toList ∧ ¬ ['_'] <:+ key.owner.name.toList) ∧
    (∀ key : QualifiedName, parse? key.encode = some key ↔
      ¬ separator <:+: key.owner.name.toList ∧ ¬ ['_'] <:+ key.owner.name.toList) ∧
    (∀ first second : QualifiedName, first.owner.IsAddressable → second.owner.IsAddressable →
      first.encode = second.encode → first = second) := by
  refine ⟨fun raw => parse?_isSome_iff, ?_, ?_, fun first second => encode_injective⟩
  · intro raw key parsed
    obtain ⟨whole, apart⟩ := parse?_eq_some_iff.mp parsed
    exact ⟨whole.symm, apart⟩
  · intro key
    rw [parse?_eq_some_iff]
    exact ⟨fun own => own.2, fun apart => ⟨rfl, apart⟩⟩

/-- In a run of four underscores the separator is the first three: the fourth belongs to the name, and an owner that ends
in it cannot be read back. -/
theorem wire_form_exact_four_underscores :
    let key : QualifiedName := ⟨⟨"a"⟩, "_b"⟩
    let hidden : QualifiedName := ⟨⟨"a_"⟩, "b"⟩
    key.encode = hidden.encode ∧ parse? key.encode = some key ∧ parse? hidden.encode ≠ some hidden := by
  intro key hidden
  have addressable : key.owner.IsAddressable := by decide +kernel
  have underscored : ¬ hidden.owner.IsAddressable := by decide +kernel
  refine ⟨by decide +kernel, (wire_form_exact.2.2.1 key).mpr addressable, ?_⟩
  intro own
  exact underscored ((wire_form_exact.2.2.1 hidden).mp own)

end QualifiedName
end ScriptBridge
