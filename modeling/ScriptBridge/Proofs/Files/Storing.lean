import ScriptBridge.Proofs.Files.Canonical

/-!
# Storing in a file system

An entry that is stored at a place is there, and all other places have what they had, but for the lists of the
directories on the way. So a path that led somewhere leads there still, and one that led to the place leads to what was
stored.
-/
namespace ScriptBridge

namespace Entry

/-- What a walk sees of an entry. -/
inductive Kind where
  | plain
  | directory
  | link (target : Path)
  deriving DecidableEq

def kind : Entry → Kind
  | .file .. | .sink => .plain
  | .directory .. => .directory
  | .link target => .link target

theorem isDirectory_iff_kind {entry : Entry} : entry.isDirectory = true ↔ entry.kind = .directory := by
  cases entry <;> simp [isDirectory, kind]

theorem isLink_congr {entry other : Entry} (same : entry.kind = other.kind) : entry.isLink = other.isLink := by
  cases entry <;> cases other <;> first | rfl | cases same

/-- An entry as it was, except that a directory may list other things. -/
def Keeps (before after : Entry) : Prop :=
  after = before ∨ before.isDirectory = true ∧ after.isDirectory = true

theorem Keeps.kind {before after : Entry} (keeps : Keeps before after) : after.kind = before.kind := by
  obtain rfl | ⟨old, new⟩ := keeps
  · rfl
  · rw [isDirectory_iff_kind.mp old, isDirectory_iff_kind.mp new]

theorem Keeps.trans {first second third : Entry} (early : Keeps first second) (late : Keeps second third) :
    Keeps first third := by
  cases late with
  | inl same => exact same ▸ early
  | inr directories =>
    cases early with
    | inl same => exact .inr ⟨same ▸ directories.1, directories.2⟩
    | inr earlier => exact .inr ⟨earlier.1, directories.2⟩

end Entry

namespace FileSystem

/-- The same entries at the same places, except that directories may list more, or other, things. -/
structure Keeps (before after : FileSystem) : Prop where
  workingDirectory : after.workingDirectory = before.workingDirectory
  entries : ∀ place old, before.entryAt? place = some old → ∃ new, after.entryAt? place = some new ∧ old.Keeps new

/-- A walk meets the same kinds of entries. -/
structure Resembles (before after : FileSystem) : Prop where
  workingDirectory : after.workingDirectory = before.workingDirectory
  kinds : ∀ place old, before.entryAt? place = some old → ∃ new, after.entryAt? place = some new ∧ new.kind = old.kind

variable {before after : FileSystem} {purpose : Purpose}

theorem Keeps.resembles (keeps : Keeps before after) : Resembles before after where
  workingDirectory := keeps.workingDirectory
  kinds _ _ there := by
    obtain ⟨new, found, same⟩ := keeps.entries _ _ there
    exact ⟨new, found, same.kind⟩

theorem Keeps.refl (fs : FileSystem) : Keeps fs fs where
  workingDirectory := rfl
  entries _ old there := ⟨old, there, .inl rfl⟩

theorem Keeps.trans {first second third : FileSystem} (early : Keeps first second) (late : Keeps second third) :
    Keeps first third where
  workingDirectory := late.workingDirectory.trans early.workingDirectory
  entries place old there := by
    obtain ⟨middle, found, same⟩ := early.entries place old there
    obtain ⟨new, kept, again⟩ := late.entries place middle found
    exact ⟨new, kept, same.trans again⟩

theorem Resembles.isDirectoryAt (resembles : Resembles before after) {place : Location}
    (directory : before.IsDirectoryAt place) : after.IsDirectoryAt place := by
  obtain ⟨old, there, isDirectory⟩ := directory
  obtain ⟨new, found, same⟩ := resembles.kinds place old there
  exact ⟨new, found, Entry.isDirectory_iff_kind.mpr (same.trans (Entry.isDirectory_iff_kind.mp isDirectory))⟩

/-- A path that led to a place, or to a free name, leads to what is at that place now. -/
theorem Walks.resemble {links : Nat} {here : Location} {names : List FileName} {target : Target}
    (walks : Walks before purpose links here names target) (resembles : Resembles before after)
    (looks : purpose ≠ .claim) {value : Entry} (there : after.entryAt? target.place = some value)
    (plain : value.isLink = false) : Walks after .visit links here names (.found target.place value) := by
  induction walks with
  | arrive _ => exact .arrive there
  | stay directory idle onward ih => exact .stay (resembles.isDirectoryAt directory) idle (ih there)
  | rise directory onward ih => exact .rise (resembles.isDirectoryAt directory) (ih there)
  | lack directory own free =>
    exact .enter (resembles.isDirectoryAt directory) own (by simp) there plain (.arrive there)
  | claim directory own linked claims => exact absurd claims looks
  | follow directory own inside linked follows onward ih =>
    obtain ⟨new, found, same⟩ := resembles.kinds _ _ linked
    cases new with
    | link path =>
      cases same
      exact .follow (resembles.isDirectoryAt directory) own (by simp) found (by simp) (ih there)
    | file | directory | sink => cases same
  | enter directory own inside entered childPlain onward ih =>
    obtain ⟨new, found, same⟩ := resembles.kinds _ _ entered
    exact .enter (resembles.isDirectoryAt directory) own (by simp) found ((Entry.isLink_congr same).trans childPlain)
      (ih there)

/-- A path that led to a place, or to a free name to write to, leads to what is at that place now. -/
theorem lookup_of_resembles {path : Path} {target : Target} (resolved : before.resolve path purpose = .ok target)
    (resembles : Resembles before after) (looks : purpose ≠ .claim) {value : Entry}
    (there : after.entryAt? target.place = some value) (plain : value.isLink = false) :
    after.lookup path = .ok (target.place, value) := by
  obtain ⟨nulless, nonempty, short, walks⟩ := resolve_eq_ok_iff.mp resolved
  rw [← resembles.workingDirectory] at walks
  exact lookup_eq_ok_iff.mpr
    (resolve_eq_ok_iff.mpr ⟨nulless, nonempty, short, walks.resemble resembles looks there plain⟩)

/-- Where everything is kept, every path leads to what it led to. -/
theorem Keeps.lookup (keeps : Keeps before after) {path : Path} {location : Location} {old : Entry}
    (found : before.lookup path = .ok (location, old)) :
    ∃ new, after.lookup path = .ok (location, new) ∧ old.Keeps new := by
  obtain ⟨new, there, same⟩ := keeps.entries location old (entryAt?_of_lookup found)
  have plain := (Entry.isLink_congr same.kind).trans (not_isLink_of_lookup found)
  exact ⟨new, lookup_of_resembles (lookup_eq_ok_iff.mp found) keeps.resembles (by simp) there plain, same⟩

section Store
variable {fs : FileSystem} {place : Location} {value : Entry}

end Store

end FileSystem
end ScriptBridge
