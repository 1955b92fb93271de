import ScriptBridge.Proofs.ByteOrder
import ScriptBridge.Proofs.Files.LastNames
import ScriptBridge.Script.Resolved

/-!
# Identities of paths

A path gives the stem of its last name as identity, if that is text, and nothing else of the path plays a part. So a script
file and a script directory of one name have one identity as long as the name has no dot of its own; of a directory
`a.b` the part behind the dot is left off as if it were an extension, of the file `a.b.py` it is not.
-/
namespace ScriptBridge

/-- A slash in a text is a slash among its bytes. -/
theorem Utf8.separator_mem_encode {text : String} (slash : '/' ∈ text.toList) : Path.separator ∈ encode text := by
  rw [encode_eq_flatMap]
  exact List.mem_flatMap.mpr ⟨'/', slash, by decide⟩

namespace ScriptId
open ScriptBridge.Path

variable {path : Path} {name stem : FileName}

theorem ofPath?_eq_none_of_nameless (nameless : path.fileName? = none) : ofPath? path = none := by
  rw [ofPath?, fileStem?, nameless]
  rfl

/-- Two paths with the same last name, or both without one, give the same identity. -/
theorem ofPath?_congr {other : Path} (same : ∀ name, path.fileName? = some name ↔ other.fileName? = some name) :
    ofPath? path = ofPath? other := by
  have names : path.fileName? = other.fileName? := Option.ext same
  rw [ofPath?, ofPath?, fileStem?, fileStem?, names]

/-- The identity that a name gives has the bytes of its stem. -/
theorem ofPath?_eq_some_iff (ends : EndsIn path.bytes name) (cut : IsStem name stem) {identity : ScriptId} :
    ofPath? path = some identity ↔ Utf8.encode identity.name = stem := by
  have named := fileName?_eq_some_iff.mpr ends
  rw [ofPath?, fileStem?, named, Option.map_some, Option.bind_some, cut.splitName_eq, ← Utf8.decode?_eq_some_iff]
  cases decoded : Utf8.decode? stem with
  | none => simp
  | some text =>
    have filled : text ≠ "" := by
      rintro rfl
      exact cut.nonempty ends.isName.nonempty (Utf8.decode?_eq_some_iff.mp decoded).symm
    rw [Option.bind_some, if_neg filled, Option.some.injEq, Option.some.injEq]
    constructor
    · rintro rfl
      rfl
    · rintro rfl
      rfl

/-- A path with a last name has no identity exactly when the stem is no text. -/
theorem ofPath?_eq_none_iff (ends : EndsIn path.bytes name) (cut : IsStem name stem) :
    ofPath? path = none ↔ ∀ text, Utf8.encode text ≠ stem := by
  rw [Option.eq_none_iff_forall_ne_some]
  constructor
  · intro nothing text encoded
    exact nothing ⟨text⟩ ((ofPath?_eq_some_iff ends cut).mpr encoded)
  · intro undecodable identity given
    exact undecodable identity.name ((ofPath?_eq_some_iff ends cut).mp given)

theorem exists_endsIn_of_ofPath? {identity : ScriptId} (given : ofPath? path = some identity) :
    ∃ name, EndsIn path.bytes name := by
  cases named : path.fileName? with
  | none =>
    rw [ofPath?_eq_none_of_nameless named] at given
    cases given
  | some name => exact ⟨name, fileName?_eq_some_iff.mp named⟩

/-- The bytes of the name that a script file with this stem has. -/
def fileNameOf (stem : FileName) : FileName := stem ++ dot :: scriptExtension

theorem isStem_fileNameOf (nonempty : stem ≠ []) : IsStem (fileNameOf stem) stem :=
  .inr ⟨scriptExtension, rfl, nonempty, by decide +kernel⟩

/-- A script file and a script directory of one name have an identity in common exactly when the name is text and has no
dot behind its first byte. -/
theorem shares_identity_iff {file directory : Path} (named : EndsIn directory.bytes name)
    (filed : EndsIn file.bytes (fileNameOf name)) :
    (∃ identity, ofPath? file = some identity ∧ ofPath? directory = some identity) ↔
      dot ∉ name.tail ∧ ∃ text, Utf8.encode text = name := by
  have whole := isStem_fileNameOf named.isName.nonempty
  constructor
  · rintro ⟨identity, ofFile, ofDirectory⟩
    have bytes := (ofPath?_eq_some_iff filed whole).mp ofFile
    have stem := (ofPath?_eq_some_iff named (isStem_splitName name)).mp ofDirectory
    rw [bytes] at stem
    rcases isStem_splitName name with ⟨dotless, -⟩ | ⟨extension, cut, -, -⟩
    · exact ⟨dotless, identity.name, bytes⟩
    · rw [← stem] at cut
      exact absurd (congrArg List.length cut) (by simp)
  · rintro ⟨dotless, text, encoded⟩
    exact ⟨⟨text⟩, (ofPath?_eq_some_iff filed whole).mpr encoded,
      (ofPath?_eq_some_iff named (.inl ⟨dotless, rfl⟩)).mpr encoded⟩

/-- How paths give identities. -/
structure FollowsLastName : Prop where
  /-- A slash at the end, or a slash and a dot, changes nothing, -/
  closed : ∀ path : Path, ofPath? ⟨path.bytes ++ [separator]⟩ = ofPath? path
  here : ∀ path : Path, ofPath? ⟨path.bytes ++ [separator, dot]⟩ = ofPath? path
  /-- nor does what stands in front of the last name. -/
  behind : ∀ (front : List UInt8) (name : FileName), IsName name →
    ofPath? ⟨front ++ separator :: name⟩ = ofPath? ⟨name⟩
  /-- A name gives its stem, unless that is no text. -/
  stem : ∀ name stem : FileName, IsName name → IsStem name stem →
    (ofPath? ⟨name⟩ = none ↔ ∀ text, Utf8.encode text ≠ stem) ∧
    ∀ identity, ofPath? ⟨name⟩ = some identity ↔ Utf8.encode identity.name = stem
  /-- Every name has one stem. -/
  cut : ∀ name : FileName, ∃! stem, IsStem name stem
  /-- A path that does not end in a name gives none: -/
  nameless : ∀ path : Path, (∀ name, ¬ EndsIn path.bytes name) → ofPath? path = none
  /-- the empty path, the root, the dot, and what ends in two dots. -/
  without : ofPath? ⟨[]⟩ = none ∧ ofPath? ⟨[separator]⟩ = none ∧ ofPath? ⟨[dot]⟩ = none ∧ ofPath? ⟨[dot, dot]⟩ = none ∧
    ∀ front, ofPath? ⟨front ++ [separator, dot, dot]⟩ = none
  wellFormed : ∀ (path : Path) (identity : ScriptId), ofPath? path = some identity →
    identity.name ≠ "" ∧ '/' ∉ identity.name.toList
  /-- The file with a name and the extension, and the directory with the name. -/
  paired : ∀ (name : FileName) (file directory : Path), EndsIn directory.bytes name →
    EndsIn file.bytes (fileNameOf name) →
    ((∃ identity, ofPath? file = some identity ∧ ofPath? directory = some identity) ↔
      dot ∉ name.tail ∧ ∃ text, Utf8.encode text = name)

/-- An identity is not empty and has no slash, since it is the beginning of a last name. -/
theorem wellFormed_of_ofPath? {identity : ScriptId} (given : ofPath? path = some identity) :
    identity.name ≠ "" ∧ '/' ∉ identity.name.toList := by
  obtain ⟨name, ends⟩ := exists_endsIn_of_ofPath? given
  have cut := isStem_splitName name
  have bytes := (ofPath?_eq_some_iff ends cut).mp given
  refine ⟨?_, ?_⟩
  · intro empty
    rw [empty] at bytes
    exact cut.nonempty ends.isName.nonempty bytes.symm
  · intro slash
    have inside := Utf8.separator_mem_encode slash
    rw [bytes] at inside
    exact ends.isName.slashless (cut.begins.subset inside)

/-- The identity of a path is the stem of its last name. -/
theorem identity_follows_last_name : FollowsLastName where
  closed path := ofPath?_congr fun name => by
    have empty : separator ∉ ([] : FileName) := List.not_mem_nil
    simp [fileName?_below path.bytes empty, component?]
  here path := ofPath?_congr fun name => by
    have single : separator ∉ [dot] := by decide
    simp [fileName?_below path.bytes single, component?]
  behind front name proper := ofPath?_congr fun other => by
    simp [fileName?_below front proper.slashless, fileName?_alone proper.slashless, proper.component?]
  stem name stem proper cut := ⟨ofPath?_eq_none_iff (.alone proper) cut, fun _ => ofPath?_eq_some_iff (.alone proper) cut⟩
  cut name := ⟨(splitName name).1, isStem_splitName name, fun stem cut => cut.splitName_eq.symm⟩
  nameless path nameless := by
    apply ofPath?_eq_none_of_nameless
    exact Option.eq_none_iff_forall_ne_some.mpr fun name named => nameless name (fileName?_eq_some_iff.mp named)
  without := by
    refine ⟨by decide +kernel, by decide +kernel, by decide +kernel, by decide +kernel, fun front => ?_⟩
    apply ofPath?_eq_none_of_nameless
    refine Option.eq_none_iff_forall_ne_some.mpr fun name named => ?_
    rcases (fileName?_below front (by decide)).mp named with final | ⟨idle, -⟩
    · cases final
    · cases idle
  wellFormed _ _ := wellFormed_of_ofPath?
  paired _ _ _ := shares_identity_iff

/-- A file and a directory of a name with a dot. -/
theorem dotted_names_part :
    let file : Path := .ofString "a.b.py"
    let directory : Path := .ofString "a.b/"
    ofPath? file = some ⟨"a.b"⟩ ∧ ofPath? directory = some ⟨"a"⟩ ∧ ofPath? file ≠ ofPath? directory := by
  intro file directory
  have ofFile : ofPath? file = some ⟨"a.b"⟩ := by decide +kernel
  have ofDirectory : ofPath? directory = some ⟨"a"⟩ := by decide +kernel
  refine ⟨ofFile, ofDirectory, ?_⟩
  rw [ofFile, ofDirectory]
  decide

end ScriptId
end ScriptBridge
