import Mathlib.Data.List.Basic
import ScriptBridge.Proofs.Files.LastNames
import ScriptBridge.Proofs.Files.PathOrder
import ScriptBridge.Proofs.Files.Storing
import ScriptBridge.Script.Resolved

/-!
# What a directory offers

A directory that can be read offers a script by the path to each of its entries that is taken for one. No two of these
paths have the same components. Two trees that differ in the order of their listings only offer the same.
-/
namespace ScriptBridge

namespace Entry

/-- The same entry, or a directory that lists the same names in another order. -/
def Reorders (before after : Entry) : Prop :=
  after = before ∨ ∃ entries others readable, before = .directory entries readable ∧ after = .directory others readable ∧
    (entries.map Prod.fst).Perm (others.map Prod.fst)

variable {before after : Entry}

theorem Reorders.keeps (reorders : Reorders before after) : Keeps before after := by
  rcases reorders with same | ⟨entries, others, readable, rfl, rfl, -⟩
  · exact .inl same
  · exact .inr ⟨rfl, rfl⟩

theorem isFile_of_isDirectory {entry : Entry} (directory : entry.isDirectory = true) : entry.isFile = false := by
  cases entry with
  | directory => rfl
  | file | link | sink => cases directory

theorem Keeps.isDirectory (keeps : Keeps before after) : after.isDirectory = before.isDirectory := by
  rcases keeps with rfl | ⟨old, new⟩
  · rfl
  · rw [old, new]

theorem Keeps.isFile (keeps : Keeps before after) : after.isFile = before.isFile := by
  rcases keeps with rfl | ⟨old, new⟩
  · rfl
  · rw [isFile_of_isDirectory old, isFile_of_isDirectory new]

end Entry

namespace FileSystem

/-- The names that a directory lists, if it can be read. -/
def Lists (files : FileSystem) (directory : Path) (names : List FileName) : Prop :=
  ∃ location entries, files.lookup directory = .ok (location, .directory entries true) ∧ entries.map Prod.fst = names

/-- A path that leads through a directory to an entry of it that is taken for a script. -/
def Offers (files : FileSystem) (directory path : Path) : Prop :=
  ∃ names, files.Lists directory names ∧ (∃ name ∈ names, path = directory.join ⟨name⟩) ∧ files.offersScript path = true

section Listing
variable {files : FileSystem} {directory path : Path} {names : List FileName}

theorem list_eq_ok_iff : files.list directory = .ok names ↔ files.Lists directory names := by
  rw [list, Lists]
  cases files.lookup directory with
  | error cause => simp [bind, Except.bind]
  | ok visited =>
    obtain ⟨location, entry⟩ := visited
    cases entry with
    | directory entries readable => cases readable <;> simp [bind, Except.bind, pure, Except.pure]
    | file | link | sink => simp [bind, Except.bind]

theorem mem_scriptsIn_iff : path ∈ files.scriptsIn directory ↔ files.Offers directory path := by
  rw [scriptsIn, Offers]
  simp only [← list_eq_ok_iff]
  cases files.list directory with
  | error cause => simp
  | ok names => simp only [List.mem_mergeSort, List.mem_filter, List.mem_map, Except.ok.injEq, exists_eq_left', eq_comm]

theorem pairwise_scriptsIn (files : FileSystem) (directory : Path) :
    (files.scriptsIn directory).Pairwise fun a b => (a.compareTo b != .gt) = true := by
  rw [scriptsIn]
  split
  · exact List.Pairwise.nil
  · refine List.pairwise_mergeSort (fun a b c => ?_) (fun a b => ?_) _
    · exact Path.compareTo_ne_gt_trans
    · exact Path.compareTo_ne_gt_total a b

theorem scriptsIn_eq_nil (unlisted : ∀ names, ¬ files.Lists directory names) : files.scriptsIn directory = [] := by
  rw [List.eq_nil_iff_forall_not_mem]
  intro path listed
  obtain ⟨names, lists, -⟩ := mem_scriptsIn_iff.mp listed
  exact unlisted names lists

theorem Lists.isFileName (lists : files.Lists directory names) (wellNamed : files.WellNamed) :
    ∀ name ∈ names, IsFileName name := by
  obtain ⟨location, entries, found, rfl⟩ := lists
  intro name inside
  obtain ⟨child, stored⟩ : ∃ child, Table.get? name entries = some child :=
    Option.isSome_iff_exists.mp (Table.isSome_get?_iff.mpr inside)
  exact wellNamed (location ++ [name]) child ((entryAt?_concat (entryAt?_of_lookup found) name).trans stored) name
    (by simp)

/-- Paths to entries of one directory have different components when they are different. -/
theorem Offers.eq_of_components {other : Path} (offers : files.Offers directory path)
    (others : files.Offers directory other) (wellNamed : files.WellNamed) (same : path.components = other.components) :
    path = other := by
  obtain ⟨names, lists, ⟨name, inside, rfl⟩, -⟩ := offers
  obtain ⟨again, listsAgain, ⟨second, insideAgain, rfl⟩, -⟩ := others
  have named := Path.fileName?_join directory (lists.isFileName wellNamed name inside).isName
  have namedAgain := Path.fileName?_join directory (listsAgain.isFileName wellNamed second insideAgain).isName
  rw [Path.fileName?_eq_some_iff_components, same, ← Path.fileName?_eq_some_iff_components, namedAgain,
    Option.some.injEq] at named
  rw [named]

end Listing

/-- Two trees that differ in nothing but the order in which directories list their entries. -/
structure Reorders (before after : FileSystem) : Prop where
  workingDirectory : after.workingDirectory = before.workingDirectory
  forth : ∀ place old, before.entryAt? place = some old → ∃ new, after.entryAt? place = some new ∧ old.Reorders new
  back : ∀ place new, after.entryAt? place = some new → ∃ old, before.entryAt? place = some old ∧ new.Reorders old

namespace Reorders
variable {before after : FileSystem}

theorem symm (reorders : Reorders before after) : Reorders after before where
  workingDirectory := reorders.workingDirectory.symm
  forth := reorders.back
  back := reorders.forth

/-- A path leads to the same place, whatever order directories are listed in. -/
theorem lookup (reorders : Reorders before after) {path : Path} {location : Location} {old : Entry}
    (found : before.lookup path = .ok (location, old)) :
    ∃ new, after.lookup path = .ok (location, new) ∧ old.Reorders new := by
  have keeps : Keeps before after := {
    workingDirectory := reorders.workingDirectory
    entries := fun place old there => by
      obtain ⟨new, again, same⟩ := reorders.forth place old there
      exact ⟨new, again, same.keeps⟩ }
  obtain ⟨new, again, -⟩ := keeps.lookup found
  obtain ⟨entry, there, same⟩ := reorders.forth location old (entryAt?_of_lookup found)
  obtain rfl : new = entry := Option.some.inj ((entryAt?_of_lookup again).symm.trans there)
  exact ⟨new, again, same⟩

/-- What a path leads to is the same as far as it is kept where only listings change. -/
theorem any_visited (reorders : Reorders before after) {holds : Entry → Bool}
    (kept : ∀ old new : Entry, old.Keeps new → holds new = holds old) (path : Path) :
    (after.entry? path).any holds = (before.entry? path).any holds := by
  unfold entry?
  cases found : before.lookup path with
  | ok visited =>
    obtain ⟨location, old⟩ := visited
    obtain ⟨new, again, same⟩ := reorders.lookup found
    rw [again]
    exact kept old new same.keeps
  | error cause =>
    cases again : after.lookup path with
    | error other => rfl
    | ok visited =>
      obtain ⟨location, new⟩ := visited
      obtain ⟨old, earlier, -⟩ := reorders.symm.lookup again
      rw [found] at earlier
      cases earlier

theorem offersScript (reorders : Reorders before after) (path : Path) :
    after.offersScript path = before.offersScript path := by
  have directory : after.isDirectory path = before.isDirectory path :=
    reorders.any_visited (fun _ _ => Entry.Keeps.isDirectory) path
  have main : after.isFile (path.join entryFile) = before.isFile (path.join entryFile) :=
    reorders.any_visited (fun _ _ => Entry.Keeps.isFile) (path.join entryFile)
  rw [FileSystem.offersScript, FileSystem.offersScript, directory, main]

theorem lists (reorders : Reorders before after) {directory : Path} {names : List FileName}
    (lists : before.Lists directory names) : ∃ others, after.Lists directory others ∧ names.Perm others := by
  obtain ⟨location, entries, found, rfl⟩ := lists
  obtain ⟨new, again, same⟩ := reorders.lookup found
  rcases same with rfl | ⟨old, others, readable, same, rfl, permuted⟩
  · exact ⟨_, ⟨location, entries, again, rfl⟩, .refl _⟩
  · cases same
    exact ⟨_, ⟨location, others, again, rfl⟩, permuted⟩

theorem offers (reorders : Reorders before after) {directory path : Path} (offers : before.Offers directory path) :
    after.Offers directory path := by
  obtain ⟨names, lists, ⟨name, inside, rfl⟩, offered⟩ := offers
  obtain ⟨others, listsAgain, permuted⟩ := reorders.lists lists
  exact ⟨others, listsAgain, ⟨name, permuted.mem_iff.mp inside, rfl⟩, (reorders.offersScript _).trans offered⟩

theorem wellNamed (reorders : Reorders before after) (named : before.WellNamed) : after.WellNamed := by
  intro place entry there
  obtain ⟨old, earlier, -⟩ := reorders.back place entry there
  exact named place old earlier

end Reorders

end FileSystem
end ScriptBridge
