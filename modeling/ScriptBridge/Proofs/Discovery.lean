import ScriptBridge.Proofs.Listing
import ScriptBridge.Proofs.ScriptSets

/-!
# Discovered scripts

What discovery lists, it lists by its name and by what it leads to at first sight: a directory has an entry file,
anything else has the extension. The loader wants more of it: a stem that is text, and a regular file at the end of a
path that can be written out from the root. A listed path loads exactly when it has these.
-/
namespace ScriptBridge

/-- A file name gives an identity as soon as its stem is text. -/
theorem ScriptId.ofPath?_isSome_iff {path : Path} {name : FileName} (named : path.fileName? = some name)
    (nonempty : name ≠ []) : (ScriptId.ofPath? path).isSome = (path.fileStem?.bind Utf8.decode?).isSome := by
  rw [ofPath?, Path.fileStem?, named, Option.map_some, Option.bind_some]
  cases decoded : Utf8.decode? (Path.splitName name).1 with
  | none => rfl
  | some text =>
    have filled : text ≠ "" := by
      rintro rfl
      exact (Path.isStem_splitName name).nonempty nonempty (Utf8.decode?_eq_some_iff.mp decoded).symm
    rw [Option.bind_some, if_neg filled]
    rfl

namespace FileSystem

theorem isFileName_entryFile : IsFileName entryFile.bytes := by decide +kernel

section Behind
variable {path : Path} (nonempty : path.bytes ≠ []) (unclosed : path.bytes.getLast? ≠ some Path.separator)
  {name : FileName} (proper : IsFileName name)
include nonempty unclosed proper

theorem join_name : path.join ⟨name⟩ = ⟨path.bytes ++ Path.separator :: name⟩ := by
  rw [Path.join, Path.isAbsolute_of_slashless proper.slashless, if_neg Bool.false_ne_true,
    if_neg (by simp [nonempty, unclosed])]

/-- A name behind a path that does not end in a slash is one step more. -/
theorem steps_join : steps (path.join ⟨name⟩) = steps path ++ [name] := by
  have still : (path.bytes ++ Path.separator :: name).getLast? ≠ some Path.separator := by
    rw [List.append_cons]
    exact Path.getLast?_ne_separator _ proper.nonempty proper.slashless
  rw [join_name nonempty unclosed proper, steps, steps, if_neg still, if_neg unclosed, Path.pieces_append,
    Path.pieces_of_slashless proper.slashless]
  simp [proper.nonempty]

theorem isAbsolute_join : (path.join ⟨name⟩).isAbsolute = path.isAbsolute := by
  obtain ⟨byte, rest, bytes⟩ := List.exists_cons_of_ne_nil nonempty
  rw [join_name nonempty unclosed proper, Path.isAbsolute, Path.isAbsolute, bytes]
  rfl

end Behind

/-- The path from the root to a name in a directory is the path to the directory with the name behind it. -/
theorem join_pathOf {place : Location} (proper : ∀ name ∈ place, IsFileName name) {name : FileName}
    (own : IsFileName name) : (pathOf place).join ⟨name⟩ = pathOf (place ++ [name]) := by
  rw [Path.join, Path.isAbsolute_of_slashless own.slashless, if_neg Bool.false_ne_true]
  by_cases top : place = []
  · subst top
    rfl
  · rw [if_neg]
    · have longer := joined_concat top name
      rw [Path.mk.injEq, bytes_pathOf, bytes_pathOf, longer, List.cons_append]
    · simpa [bytes_pathOf] using getLast?_joined top proper

/-- What is known of a path that discovery lists. -/
structure Listed (files : FileSystem) (path : Path) : Prop where
  root : files.IsDirectoryAt []
  named : ∃ name, IsFileName name ∧ path.fileName? = some name
  nonempty : path.bytes ≠ []
  unclosed : path.bytes.getLast? ≠ some Path.separator
  offered : files.offersScript path = true

theorem listed_of_mem_scriptsIn {files : FileSystem} (wellNamed : files.WellNamed) {directory path : Path}
    (listed : path ∈ files.scriptsIn directory) : files.Listed path := by
  obtain ⟨names, lists, ⟨name, inside, rfl⟩, offered⟩ := mem_scriptsIn_iff.mp listed
  have proper := lists.isFileName wellNamed name inside
  obtain ⟨location, entries, found, -⟩ := lists
  obtain ⟨front, bytes, -⟩ := Path.bytes_join directory proper.slashless
  exact {
    root := IsDirectoryAt.root ⟨_, entryAt?_of_lookup found, rfl⟩
    named := ⟨name, proper, Path.fileName?_join directory proper.isName⟩
    nonempty := by simp [bytes, proper.nonempty]
    unclosed := bytes ▸ Path.getLast?_ne_separator _ proper.nonempty proper.slashless
    offered := offered }

/-- The place of the file that stands for a script: where its path leads, or the entry file in the directory there. -/
def scriptPlace? (files : FileSystem) (path : Path) : Option Location :=
  match files.lookup path with
  | .ok (location, .directory ..) => some (location ++ [entryFile.bytes])
  | .ok (location, .file ..) => some location
  | _ => none

variable {files : FileSystem} {path : Path}

/-- The entry file that a listed directory has is there under the path from the root as well, unless that is too long. -/
theorem isFile_entryFile (wellNamed : files.WellNamed) (listed : files.Listed path) {location : Location}
    {entry : Entry} (found : files.lookup path = .ok (location, entry)) (directory : entry.isDirectory = true) :
    files.isFile (pathOf (location ++ [entryFile.bytes])) =
      decide ((pathOf (location ++ [entryFile.bytes])).bytes.length < maxPath) := by
  obtain ⟨-, -, -, walks⟩ := resolve_eq_ok_iff.mp (lookup_eq_ok_iff.mp found)
  have there := entryAt?_of_lookup found
  have seen : files.isDirectory path = true := by simp [isDirectory, entry?, found, Except.toOption, directory]
  have offered := listed.offered
  rw [offersScript, if_pos seen, isFile, Option.any_eq_true] at offered
  obtain ⟨main, reached, isFile⟩ := offered
  obtain ⟨place, resolved⟩ := entry?_eq_some_iff.mp reached
  obtain ⟨-, -, -, onward⟩ := resolve_eq_ok_iff.mp (lookup_eq_ok_iff.mp resolved)
  rw [steps_join listed.nonempty listed.unclosed isFileName_entryFile,
    isAbsolute_join listed.nonempty listed.unclosed isFileName_entryFile, ← walk_eq_ok_iff] at onward
  -- The walk to the directory may use up links; from the directory on, the path from the root has more of them left.
  obtain ⟨left, fewer, split⟩ := walks.walk_append location entry rfl
  rw [split, walk_eq_ok_iff] at onward
  have again := walk_eq_ok_iff.mpr (onward.more_links fewer)
  have proper : ∀ name ∈ location ++ [entryFile.bytes], IsFileName name := by
    simpa [or_imp, forall_and, isFileName_entryFile] using wellNamed location entry there
  have resolves := resolve_pathOf_append listed.root there (not_isLink_of_lookup found) _ proper
  rw [FileSystem.isFile, entry?, lookup, resolves, again]
  by_cases long : maxPath ≤ (pathOf (location ++ [entryFile.bytes])).bytes.length
  · rw [if_pos long, decide_eq_false (Nat.not_lt.mpr long)]
    rfl
  · rw [if_neg long, decide_eq_true (Nat.lt_of_not_le long)]
    exact isFile

theorem length_pathOf_le (place : Location) (name : FileName) :
    (pathOf place).bytes.length ≤ (pathOf (place ++ [name])).bytes.length := by
  by_cases top : place = []
  · subst top
    simp [bytes_pathOf, joined, Path.ofComponents]
  · simp [bytes_pathOf, joined_concat top]

/-- The tree of a directory `s` with one entry. -/
def singleEntry (name : FileName) (entry : Entry) : FileSystem :=
  ⟨.directory [(Utf8.encode "s", .directory [(name, entry)])], []⟩

theorem wellNamed_singleEntry {name : FileName} (proper : IsFileName name) {entry : Entry}
    (plain : entry.isDirectory = false) : (singleEntry name entry).WellNamed := by
  refine Entry.WellNamed.directory fun other child stored => ?_
  obtain ⟨rfl, rfl⟩ : other = Utf8.encode "s" ∧ Entry.directory [(name, entry)] = child := by
    simpa [Table.get?] using stored
  refine ⟨by decide +kernel, Entry.WellNamed.directory fun other child stored => ?_⟩
  obtain ⟨rfl, rfl⟩ : other = name ∧ entry = child := by simpa [Table.get?] using stored
  exact ⟨proper, .of_not_isDirectory plain⟩

end FileSystem

/-- The file that the loader takes for a listed path. -/
theorem ResolvedScript.resolve_eq_ok_iff {files : FileSystem} {path file : Path} (wellNamed : files.WellNamed)
    (listed : files.Listed path) :
    resolve files path = .ok file ↔ ∃ place, files.scriptPlace? path = some place ∧
      file = FileSystem.pathOf place ∧ file.bytes.length < FileSystem.maxPath := by
  rw [resolve, FileSystem.canonicalize, FileSystem.scriptPlace?]
  cases found : files.lookup path with
  | error cause => cases cause <;> simp [bind, Except.bind]
  | ok visited =>
    obtain ⟨location, entry⟩ := visited
    have there := FileSystem.entryAt?_of_lookup found
    have plain := FileSystem.not_isLink_of_lookup found
    have proper := wellNamed location entry there
    have shown := FileSystem.any_entry_pathOf listed.root proper there plain
    have taken : ∀ (place : FileSystem.Location) (error : BridgeError),
        (if decide ((FileSystem.pathOf place).bytes.length < FileSystem.maxPath) = true
          then Except.ok (FileSystem.pathOf place) else .error error) = .ok file ↔
        file = FileSystem.pathOf place ∧ file.bytes.length < FileSystem.maxPath := by
      intro place error
      by_cases short : (FileSystem.pathOf place).bytes.length < FileSystem.maxPath
      · rw [decide_eq_true short, if_pos rfl, Except.ok.injEq]
        exact ⟨fun same => ⟨same.symm, same ▸ short⟩, fun both => both.1.symm⟩
      · rw [decide_eq_false short, if_neg Bool.false_ne_true]
        refine ⟨nofun, ?_⟩
        rintro ⟨rfl, fits⟩
        exact absurd fits short
    simp only [bind, Except.bind, pure, Except.pure, fileAt, FileSystem.isDirectory, shown]
    cases entry with
    | link => cases plain
    | sink => simp [Entry.isDirectory, FileSystem.isFile, shown, Entry.isFile]
    | file content readable => simpa [Entry.isDirectory, FileSystem.isFile, shown, Entry.isFile] using taken location _
    | directory entries readable =>
      have main := FileSystem.isFile_entryFile wellNamed listed found rfl
      have joined := FileSystem.join_pathOf proper FileSystem.isFileName_entryFile
      have longer := FileSystem.length_pathOf_le location entryFile.bytes
      by_cases short : (FileSystem.pathOf location).bytes.length < FileSystem.maxPath
      · simpa [Entry.isDirectory, short, joined, main] using taken (location ++ [entryFile.bytes]) _
      · have above : ¬ (FileSystem.pathOf (location ++ [entryFile.bytes])).bytes.length < FileSystem.maxPath := by omega
        simp only [short, decide_false, Bool.false_and, Bool.false_eq_true, ↓reduceIte, FileSystem.isFile, shown]
        refine ⟨fun refused => (by cases refused), ?_⟩
        rintro ⟨place, ⟨rfl⟩, rfl, fits⟩
        exact absurd fits above

namespace ScriptSet

/-- A path that discovery lists can be loaded exactly when its stem is text and it leads to a file, or to a directory
with an entry file, at a place that a path can name. Then a way of loading that succeeds loads it. -/
theorem listed_loads_iff {files : FileSystem} (wellNamed : files.WellNamed) {directory path : Path}
    (listed : path ∈ files.scriptsIn directory) :
    ((∃ identity, vet files path = .ok identity) ↔
      (path.fileStem?.bind Utf8.decode?).isSome = true ∧
      ∃ place, files.scriptPlace? path = some place ∧
        (FileSystem.pathOf place).bytes.length < FileSystem.maxPath) ∧
    ∀ identity, vet files path = .ok identity →
      ∀ (set : ScriptSet) (onLoad : OnLoad) (host : Host) (state : host.State) (registered : ScriptState),
        ((onLoad (.fresh identity)).run host
          ((subscribe set.settings (.fresh identity)).run host state).state).value = .ok registered →
        ((set.load files path onLoad).run host state).value = (.ok identity, set.push ⟨path, registered⟩) := by
  have known := FileSystem.listed_of_mem_scriptsIn wellNamed listed
  obtain ⟨name, proper, named⟩ := known.named
  refine ⟨?_, ?_⟩
  · have resolves : (∃ file, ResolvedScript.resolve files path = .ok file) ↔ ∃ place,
        files.scriptPlace? path = some place ∧ (FileSystem.pathOf place).bytes.length < FileSystem.maxPath := by
      simp only [ResolvedScript.resolve_eq_ok_iff wellNamed known]
      constructor
      · rintro ⟨_, place, leads, rfl, short⟩
        exact ⟨place, leads, short⟩
      · rintro ⟨place, leads, short⟩
        exact ⟨_, place, leads, rfl, short⟩
    rw [← ScriptId.ofPath?_isSome_iff named proper.nonempty, ← resolves, vet, ResolvedScript.identityOf]
    cases ScriptId.ofPath? path with
    | none => simp [bind, Except.bind]
    | some identity =>
      cases ResolvedScript.resolve files path <;> simp [bind, Except.bind, pure, Except.pure]
  · intro identity vetted set onLoad host state registered done
    simp only [load, vetted, start, Program.run_bind, done, Program.run_pure]
    rfl

/-- A file with the extension is listed, and a way of loading that registers a binding loads it. -/
theorem listed_loads_iff_plain :
    let files := FileSystem.singleEntry (Utf8.encode "x.py") (.file .empty)
    let path : Path := .ofString "s/x.py"
    let onLoad : OnLoad := .registering {} none
    files.WellNamed ∧ path ∈ files.scriptsIn (.ofString "s") ∧ (∃ identity, vet files path = .ok identity) ∧
      (((⟨{}, []⟩ : ScriptSet).load files path onLoad).run SimulatedHost.host ({} : SimulatedHost)).value =
        (.ok ⟨"x"⟩, (⟨{}, []⟩ : ScriptSet).push ⟨path, (ScriptState.fresh ⟨"x"⟩).register {} none⟩) := by
  intro files path onLoad
  have wellNamed : files.WellNamed := FileSystem.wellNamed_singleEntry (by decide +kernel) rfl
  have listing : files.scriptsIn (.ofString "s") = [path] := by decide +kernel
  have listed : path ∈ files.scriptsIn (.ofString "s") := by rw [listing]; exact List.mem_singleton_self path
  obtain ⟨fits, loads⟩ := listed_loads_iff wellNamed listed
  have vetted : vet files path = .ok ⟨"x"⟩ := rfl
  exact ⟨wellNamed, listed, fits.mpr ⟨by decide +kernel, _, rfl, by decide +kernel⟩,
    loads _ vetted _ onLoad SimulatedHost.host ({} : SimulatedHost) _ rfl⟩

/-- A link that leads nowhere is listed when it has the extension, and the loader finds no script there. -/
theorem dangling_link_is_listed :
    let files := FileSystem.singleEntry (Utf8.encode "x.py") (.link (.ofString "nowhere"))
    let path : Path := .ofString "s/x.py"
    files.WellNamed ∧ path ∈ files.scriptsIn (.ofString "s") ∧ vet files path = .error (.scriptNotFound path) := by
  intro files path
  have listing : files.scriptsIn (.ofString "s") = [path] := by decide +kernel
  have listed : path ∈ files.scriptsIn (.ofString "s") := by rw [listing]; exact List.mem_singleton_self path
  exact ⟨FileSystem.wellNamed_singleEntry (by decide +kernel) rfl, listed, rfl⟩

end ScriptSet
end ScriptBridge
