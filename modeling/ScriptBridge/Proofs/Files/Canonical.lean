import ScriptBridge.Proofs.Files.Walking

/-!
# Paths from the root

The path that names a place from the root leads back to that place: its pieces are the names on the way, and no link
stands between them. It can be resolved exactly when it is not too long, for places may lie deeper than a path can name.
-/
namespace ScriptBridge

namespace Path

theorem pieces_ne_nil (bytes : List UInt8) : pieces bytes ≠ [] := by
  cases bytes with
  | nil => simp [pieces]
  | cons byte rest =>
    rw [pieces]
    split
    · simp
    · split <;> simp

/-- A separator cuts the pieces in front of it from those behind it. -/
theorem pieces_append (front back : List UInt8) :
    pieces (front ++ separator :: back) = pieces front ++ pieces back := by
  induction front with
  | nil => simp [pieces]
  | cons byte front ih =>
    rw [List.cons_append, pieces, pieces, ih]
    by_cases cut : byte = separator
    · rw [if_pos cut, if_pos cut, List.cons_append]
    · rw [if_neg cut, if_neg cut]
      obtain ⟨piece, more, first⟩ := List.exists_cons_of_ne_nil (pieces_ne_nil front)
      rw [first]
      rfl

/-- Only separators have nothing between them. -/
theorem eq_separator_of_pieces {bytes : List UInt8} (bare : (pieces bytes).filter (· ≠ []) = []) :
    ∀ byte ∈ bytes, byte = separator := by
  induction bytes with
  | nil => simp
  | cons byte bytes ih =>
    rw [pieces] at bare
    split at bare
    next same => simpa [same] using ih (by simpa using bare)
    next => split at bare <;> simp at bare

theorem pieces_of_slashless {name : List UInt8} (slashless : separator ∉ name) : pieces name = [name] := by
  induction name with
  | nil => rfl
  | cons byte name ih =>
    have other : byte ≠ separator := fun same => slashless (same ▸ List.mem_cons_self)
    rw [pieces, if_neg other, ih fun inside => slashless (List.mem_cons_of_mem byte inside)]

theorem isAbsolute_of_slashless {name : List UInt8} (slashless : separator ∉ name) :
    (⟨name⟩ : Path).isAbsolute = false :=
  decide_eq_false fun first => slashless (List.mem_of_head? first)

theorem getLast?_ne_separator (front : List UInt8) {name : List UInt8} (nonempty : name ≠ []) (slashless : separator ∉ name) :
    (front ++ name).getLast? ≠ some separator := by
  intro last
  rw [List.getLast?_append, List.getLast?_eq_some_getLast nonempty, Option.some_or, Option.some.injEq] at last
  exact slashless (last ▸ List.getLast_mem nonempty)

end Path

/-- A name that an entry of a directory can have. -/
structure FileSystem.IsFileName (name : FileName) : Prop extends IsOwnName name where
  slashless : Path.separator ∉ name
  nulless : (0 : UInt8) ∉ name

theorem FileSystem.IsFileName.nonempty {name : FileName} (proper : IsFileName name) : name ≠ [] :=
  fun empty => proper.notHere (.inl empty)

theorem FileSystem.isFileName_iff {name : FileName} :
    IsFileName name ↔ (name ≠ [] ∧ name ≠ [Path.dot] ∧ name ≠ [Path.dot, Path.dot]) ∧ name.length ≤ maxName ∧
      Path.separator ∉ name ∧ (0 : UInt8) ∉ name := by
  constructor
  · rintro ⟨⟨notHere, notAbove, short⟩, slashless, nulless⟩
    exact ⟨⟨fun empty => notHere (.inl empty), fun here => notHere (.inr here), notAbove⟩, short, slashless, nulless⟩
  · rintro ⟨⟨nonempty, notHere, notAbove⟩, short, slashless, nulless⟩
    exact ⟨⟨by simp [nonempty, notHere], notAbove, short⟩, slashless, nulless⟩

instance (name : FileName) : Decidable (FileSystem.IsFileName name) := decidable_of_iff' _ FileSystem.isFileName_iff

namespace Entry

open FileSystem (IsFileName)

/-- Every name below an entry is one that an entry can have. -/
def WellNamed (entry : Entry) : Prop :=
  ∀ names below, entry.descend? names = some below → ∀ name ∈ names, IsFileName name

theorem WellNamed.of_not_isDirectory {entry : Entry} (plain : entry.isDirectory = false) : entry.WellNamed := by
  intro names below there
  cases names with
  | nil => simp
  | cons name rest => simp [descend?, child?_of_not_isDirectory plain] at there

theorem WellNamed.directory {entries : List (FileName × Entry)} {readable : Bool}
    (each : ∀ name child, Table.get? name entries = some child → IsFileName name ∧ child.WellNamed) :
    (Entry.directory entries readable).WellNamed := by
  intro names below there
  cases names with
  | nil => simp
  | cons name rest =>
    obtain ⟨child, stored, inside⟩ := Option.bind_eq_some_iff.mp there
    obtain ⟨proper, named⟩ := each name child stored
    exact List.forall_mem_cons.mpr ⟨proper, named rest below inside⟩

end Entry

namespace FileSystem

theorem steps_ne_nil {path : Path} (nonempty : path.bytes ≠ []) : steps path ≠ [] := by
  simp only [steps]
  split
  next => simp
  next unclosed =>
    intro bare
    have last := List.getLast?_eq_some_getLast nonempty
    rw [Path.eq_separator_of_pieces bare _ (List.getLast_mem nonempty)] at last
    exact unclosed last

theorem lookup_eq_ok_iff {fs : FileSystem} {path : Path} {location : Location} {entry : Entry} :
    fs.lookup path = .ok (location, entry) ↔ fs.resolve path = .ok (.found location entry) := by
  rw [lookup]
  cases fs.resolve path with
  | error cause => simp [bind, Except.bind]
  | ok target => cases target <;> simp [bind, Except.bind, pure, Except.pure]

/-- A path leads to what is at the place it leads to. -/
theorem entryAt?_of_lookup {fs : FileSystem} {path : Path} {location : Location} {entry : Entry}
    (found : fs.lookup path = .ok (location, entry)) : fs.entryAt? location = some entry := by
  obtain ⟨-, -, -, walks⟩ := resolve_eq_ok_iff.mp (lookup_eq_ok_iff.mp found)
  exact walks.holdsIn

theorem entry?_eq_some_iff {fs : FileSystem} {path : Path} {entry : Entry} :
    fs.entry? path = some entry ↔ ∃ location, fs.lookup path = .ok (location, entry) := by
  unfold entry?
  cases fs.lookup path with
  | error cause => simp [Except.toOption]
  | ok visited => simp [Except.toOption, Prod.ext_iff]

/-- What a path leads to is no link, for links are followed to their end. -/
theorem not_isLink_of_lookup {fs : FileSystem} {path : Path} {location : Location} {entry : Entry}
    (found : fs.lookup path = .ok (location, entry)) : entry.isLink = false := by
  obtain ⟨-, nonempty, -, walks⟩ := resolve_eq_ok_iff.mp (lookup_eq_ok_iff.mp found)
  exact walks.not_isLink (by simp) (fun none => absurd none (steps_ne_nil nonempty)) location entry rfl

/-- Every name in the tree is one that an entry can have. -/
def WellNamed (fs : FileSystem) : Prop := fs.root.WellNamed

/-- The bytes of names with separators between them. -/
def joined (names : Location) : List UInt8 := (Path.ofComponents (names.map .name)).bytes

theorem bytes_pathOf (place : Location) : (pathOf place).bytes = Path.separator :: joined place := rfl

theorem joined_cons {name : FileName} {rest : Location} (more : rest ≠ []) :
    joined (name :: rest) = name ++ Path.separator :: joined rest := by
  cases rest with
  | nil => exact absurd rfl more
  | cons next rest => rfl

theorem joined_concat {place : Location} (below : place ≠ []) (name : FileName) :
    joined (place ++ [name]) = joined place ++ Path.separator :: name := by
  induction place with
  | nil => exact absurd rfl below
  | cons first rest ih =>
    rw [List.cons_append, joined_cons (by simp)]
    by_cases more : rest = []
    · subst more
      rfl
    · rw [ih more, joined_cons more, List.append_assoc, List.cons_append]

/-- A place that is written with slashes is cut into its names again. -/
theorem pieces_joined {place : Location} (below : place ≠ []) (proper : ∀ name ∈ place, IsFileName name) :
    Path.pieces (joined place) = place := by
  induction place with
  | nil => exact absurd rfl below
  | cons name rest ih =>
    have own := (proper name List.mem_cons_self).slashless
    by_cases more : rest = []
    · subst more
      exact Path.pieces_of_slashless own
    · rw [joined_cons more, Path.pieces_append, Path.pieces_of_slashless own,
        ih more fun other member => proper other (List.mem_cons_of_mem name member), List.singleton_append]

theorem getLast?_joined {place : Location} (below : place ≠ []) (proper : ∀ name ∈ place, IsFileName name) :
    (Path.separator :: joined place).getLast? ≠ some Path.separator := by
  obtain ⟨front, name, rfl⟩ : ∃ front name, place = front ++ [name] :=
    ⟨_, _, (List.dropLast_concat_getLast below).symm⟩
  have own := proper name (by simp)
  by_cases first : front = []
  · subst first
    exact Path.getLast?_ne_separator [Path.separator] own.nonempty own.slashless
  · rw [joined_concat first, List.append_cons, ← List.cons_append]
    exact Path.getLast?_ne_separator _ own.nonempty own.slashless

theorem nulless_joined {place : Location} (proper : ∀ name ∈ place, IsFileName name) : (0 : UInt8) ∉ joined place := by
  induction place with
  | nil => exact List.not_mem_nil
  | cons name rest ih =>
    have own := (proper name List.mem_cons_self).nulless
    by_cases more : rest = []
    · subst more
      exact own
    · have later := ih fun other member => proper other (List.mem_cons_of_mem name member)
      rw [joined_cons more]
      simp [own, later, Path.separator]

/-- The steps of a path from the root are the names on the way to its place. -/
theorem steps_pathOf {place : Location} (proper : ∀ name ∈ place, IsFileName name) :
    steps (pathOf place) = if place = [] then [[]] else place := by
  by_cases top : place = []
  · subst top
    rfl
  · have kept : place.filter (· ≠ []) = place :=
      List.filter_eq_self.mpr fun name member => decide_eq_true (proper name member).nonempty
    have cut : Path.pieces (Path.separator :: joined place) = [] :: place := by
      rw [← List.nil_append (Path.separator :: joined place), Path.pieces_append, pieces_joined top proper]
      rfl
    rw [if_neg top, steps, bytes_pathOf, if_neg (getLast?_joined top proper), cut]
    simpa using kept

/-- The path to an entry that is no link leads to it, and on from there, unless the path is too long. -/
theorem resolve_pathOf_append {fs : FileSystem} (root : fs.IsDirectoryAt []) {place : Location} {entry : Entry}
    (there : fs.entryAt? place = some entry) (plain : entry.isLink = false) (rest : Location)
    (proper : ∀ name ∈ place ++ rest, IsFileName name) :
    fs.resolve (pathOf (place ++ rest)) =
      if maxPath ≤ (pathOf (place ++ rest)).bytes.length then .error .nameTooLong
      else fs.walk .visit maxLinks place rest := by
  have nulless : (pathOf (place ++ rest)).bytes.contains 0 = false := by
    rw [bytes_pathOf]
    simp [nulless_joined proper, Path.separator]
  have nonempty : (pathOf (place ++ rest)).bytes ≠ [] := by simp [bytes_pathOf]
  have absolute : (pathOf (place ++ rest)).isAbsolute = true := by simp [Path.isAbsolute, bytes_pathOf]
  have walks : fs.walk .visit maxLinks [] (steps (pathOf (place ++ rest))) = fs.walk .visit maxLinks place rest := by
    have own : ∀ name ∈ place, IsOwnName name := fun name member =>
      (proper name (List.mem_append_left rest member)).toIsOwnName
    rw [steps_pathOf proper]
    split
    next top =>
      obtain ⟨rfl, rfl⟩ := List.append_eq_nil_iff.mp top
      exact walk_stay root (.inl rfl)
    next => simpa using walk_names [] own there plain rest
  rw [resolve, nulless, absolute]
  simp only [Bool.false_eq_true, nonempty, walks, ↓reduceIte]

/-- A path from the root shows the entry at its place, unless the path is too long. -/
theorem any_entry_pathOf {fs : FileSystem} (root : fs.IsDirectoryAt []) {place : Location} {entry : Entry}
    (proper : ∀ name ∈ place, IsFileName name) (there : fs.entryAt? place = some entry)
    (plain : entry.isLink = false) (holds : Entry → Bool) :
    (fs.entry? (pathOf place)).any holds = (decide ((pathOf place).bytes.length < maxPath) && holds entry) := by
  have resolved := resolve_pathOf_append root there plain [] (by rwa [List.append_nil])
  rw [List.append_nil] at resolved
  unfold entry?
  rw [lookup, resolved]
  by_cases long : maxPath ≤ (pathOf place).bytes.length
  · rw [if_pos long, decide_eq_false (Nat.not_lt.mpr long)]
    rfl
  · rw [if_neg long, decide_eq_true (Nat.lt_of_not_le long), walk_nil there]
    rfl

end FileSystem
end ScriptBridge
