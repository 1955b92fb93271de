import ScriptBridge.Proofs.Discovery

/-!
# The paths that settings ask for

The scripts of the settings come first, as they are given. Behind them stand the paths by which the script directory offers
a script, in ascending order, but for those whose components an explicit path has already. In which order a directory
lists its entries does not show, and a directory that cannot be listed adds nothing.
-/
namespace ScriptBridge

namespace FileSystem

/-- The tree of a directory `s` with empty files of these names. -/
def folder (names : List FileName) : FileSystem :=
  ⟨.directory [(Utf8.encode "s", .directory (names.map fun name => (name, .file .empty)))], []⟩

theorem get?_files (names : List FileName) (name : FileName) :
    Table.get? name (names.map fun name => (name, Entry.file .empty)) =
      if name ∈ names then some (.file .empty) else none := by
  induction names with
  | nil => rfl
  | cons first rest ih =>
    rw [List.map_cons, Table.get?, ih]
    by_cases same : name = first <;> simp [same]

theorem wellNamed_folder {names : List FileName} (proper : ∀ name ∈ names, IsFileName name) : (folder names).WellNamed := by
  refine Entry.WellNamed.directory fun outer inside stored => ?_
  obtain ⟨rfl, rfl⟩ : outer = Utf8.encode "s" ∧ .directory (names.map fun name => (name, Entry.file .empty)) = inside := by
    simpa [Table.get?] using stored
  refine ⟨by decide +kernel, Entry.WellNamed.directory fun name child filed => ?_⟩
  rw [get?_files] at filed
  split at filed
  next listed =>
    cases filed
    exact ⟨proper name listed, .of_not_isDirectory rfl⟩
  next => cases filed

theorem entryAt?_folder_cons (names : List FileName) (name : FileName) (rest : Location) :
    (folder names).entryAt? (name :: rest) =
      if name = Utf8.encode "s" then (Entry.directory (names.map fun name => (name, .file .empty))).descend? rest
      else none := by
  rw [entryAt?, folder, Entry.descend?, Entry.child?, Table.get?]
  split
  · rfl
  · rfl

/-- The order in which the directory lists its files is all that changes with the order of the names. -/
theorem reorders_folder {names others : List FileName} (permuted : names.Perm others) :
    Reorders (folder names) (folder others) := by
  have forth : ∀ {names others : List FileName}, names.Perm others → ∀ place old,
      (folder names).entryAt? place = some old → ∃ new, (folder others).entryAt? place = some new ∧ old.Reorders new := by
    intro names others permuted place old there
    rcases place with _ | ⟨outer, _ | ⟨inner, deeper⟩⟩
    case nil => exact ⟨_, rfl, .inr ⟨_, _, _, (Option.some.inj there).symm, rfl, List.Perm.refl _⟩⟩
    case cons.nil =>
      rw [entryAt?_folder_cons] at there ⊢
      split at there
      next same =>
        refine ⟨_, if_pos same, .inr ⟨_, _, _, (Option.some.inj there).symm, rfl, ?_⟩⟩
        simpa [Function.comp_def] using permuted
      next => cases there
    case cons.cons =>
      rw [entryAt?_folder_cons] at there ⊢
      simp only [Entry.descend?, Entry.child?, get?_files, permuted.mem_iff] at there ⊢
      exact ⟨old, there, .inl rfl⟩
  exact ⟨rfl, forth permuted, forth permuted.symm⟩

end FileSystem

namespace ScriptSet

/-- The paths that are added behind given ones: each whose components none before it has. -/
def newPaths (given : List Path) : List Path → List Path
  | [] => []
  | path :: rest =>
    if given.any (·.same path) then newPaths given rest else path :: newPaths (given ++ [path]) rest

theorem any_same_iff {given : List Path} {path : Path} :
    given.any (·.same path) = true ↔ ∃ earlier ∈ given, earlier.components = path.components := by
  simp only [List.any_eq_true, Path.same, decide_eq_true_eq]

theorem foldl_addPath (given found : List Path) : found.foldl addPath given = given ++ newPaths given found := by
  induction found generalizing given with
  | nil => rw [List.foldl_nil, newPaths, List.append_nil]
  | cons path rest ih =>
    rw [List.foldl_cons, addPath, newPaths]
    split
    · exact ih given
    · rw [ih (given ++ [path]), List.append_assoc, List.singleton_append]

/-- What is added is in the order in which it was found. -/
theorem newPaths_sublist (given found : List Path) : (newPaths given found).Sublist found := by
  induction found generalizing given with
  | nil => exact List.Sublist.slnil
  | cons path rest ih =>
    rw [newPaths]
    split
    · exact (ih given).cons path
    · exact (ih (given ++ [path])).cons_cons path

/-- What is added repeats no path that was given, -/
theorem newPaths_apart (given found : List Path) :
    ∀ path ∈ newPaths given found, ∀ earlier ∈ given, earlier.components ≠ path.components := by
  induction found generalizing given with
  | nil => exact fun path added => absurd added List.not_mem_nil
  | cons first rest ih =>
    rw [newPaths]
    split
    next => exact ih given
    next fresh =>
      intro path added earlier before same
      rcases List.mem_cons.mp added with rfl | later
      · exact fresh (any_same_iff.mpr ⟨earlier, before, same⟩)
      · exact ih (given ++ [first]) path later earlier (List.mem_append_left _ before) same

/-- nor one that was added before it, -/
theorem pairwise_newPaths (given found : List Path) :
    (newPaths given found).Pairwise fun a b => a.components ≠ b.components := by
  induction found generalizing given with
  | nil => exact List.Pairwise.nil
  | cons path rest ih =>
    rw [newPaths]
    split
    · exact ih given
    · refine List.pairwise_cons.mpr ⟨fun later added => ?_, ih (given ++ [path])⟩
      exact newPaths_apart (given ++ [path]) rest later added path (by simp)

/-- and what is not added has the components of a path that is there. -/
theorem newPaths_covers (given found : List Path) :
    ∀ path ∈ found, ∃ kept ∈ given ++ newPaths given found, kept.components = path.components := by
  induction found generalizing given with
  | nil => exact fun path listed => absurd listed List.not_mem_nil
  | cons first rest ih =>
    intro path listed
    rw [newPaths]
    split
    next known =>
      rcases List.mem_cons.mp listed with rfl | later
      · obtain ⟨earlier, before, same⟩ := any_same_iff.mp known
        exact ⟨earlier, List.mem_append_left _ before, same⟩
      · exact ih given path later
    next =>
      rcases List.mem_cons.mp listed with rfl | later
      · exact ⟨path, by simp, rfl⟩
      · obtain ⟨kept, there, same⟩ := ih (given ++ [first]) path later
        exact ⟨kept, by simpa using there, same⟩

/-- What the settings of a set of scripts ask for in a tree of files. -/
structure WantsOffered (set : ScriptSet) (files : FileSystem) (environment : Environment) (found : List Path) :
    Prop where
  /-- The explicit paths stand in front as they are given, with their repetitions. -/
  whole : set.wantedPaths files environment = set.settings.scripts ++ found
  /-- What is found is exactly what the script directory offers, without the components of an explicit path, -/
  offered : ∀ path, path ∈ found ↔ files.Offers (set.settings.effectiveDirectory environment) path ∧
    ∀ explicit ∈ set.settings.scripts, explicit.components ≠ path.components
  /-- in strictly ascending order, -/
  ascending : found.Pairwise fun a b => a.compareTo b = .lt
  /-- so that none of it repeats another. -/
  distinct : found.Pairwise fun a b => a.components ≠ b.components
  /-- Nothing that is offered is lost. -/
  kept : ∀ path, files.Offers (set.settings.effectiveDirectory environment) path →
    ∃ wanted ∈ set.wantedPaths files environment, wanted.components = path.components
  /-- The order of listings does not show. -/
  unordered : ∀ others, files.Reorders others → set.wantedPaths others environment = set.wantedPaths files environment
  /-- A directory that is missing, or is none, or cannot be read, adds nothing. -/
  unlisted : (∀ names, ¬ files.Lists (set.settings.effectiveDirectory environment) names) → found = []

variable (set : ScriptSet) (environment : Environment)

/-- What discovery adds to the explicit paths. -/
def discovered (files : FileSystem) : List Path :=
  newPaths set.settings.scripts (files.scriptsIn (set.settings.effectiveDirectory environment))

theorem wantedPaths_eq (files : FileSystem) :
    set.wantedPaths files environment = set.settings.scripts ++ set.discovered environment files :=
  foldl_addPath _ _

theorem ascending_discovered (files : FileSystem) :
    (set.discovered environment files).Pairwise fun a b => a.compareTo b = .lt := by
  have ordered := (files.pairwise_scriptsIn _).sublist
    (newPaths_sublist set.settings.scripts (files.scriptsIn (set.settings.effectiveDirectory environment)))
  exact ordered.imp₂ (fun _ _ => Path.compareTo_eq_lt_of_ne) (pairwise_newPaths _ _)

/-- What is offered is added unless it is among the explicit paths already. -/
theorem mem_discovered_iff {files : FileSystem} (wellNamed : files.WellNamed) {path : Path} :
    path ∈ set.discovered environment files ↔ files.Offers (set.settings.effectiveDirectory environment) path ∧
      ∀ explicit ∈ set.settings.scripts, explicit.components ≠ path.components := by
  constructor
  · intro added
    exact ⟨FileSystem.mem_scriptsIn_iff.mp ((newPaths_sublist _ _).subset added), newPaths_apart _ _ path added⟩
  · rintro ⟨offers, fresh⟩
    obtain ⟨kept, there, same⟩ := newPaths_covers set.settings.scripts _ path (FileSystem.mem_scriptsIn_iff.mpr offers)
    rcases List.mem_append.mp there with explicit | added
    · exact absurd same (fresh kept explicit)
    · have offered := FileSystem.mem_scriptsIn_iff.mp ((newPaths_sublist _ _).subset added)
      rwa [offered.eq_of_components offers wellNamed same] at added

/-- The paths that are asked for are the explicit ones and, in ascending order, what the script directory offers besides
them. -/
theorem wants_what_is_offered {files : FileSystem} (wellNamed : files.WellNamed) :
    ∃ found, set.WantsOffered files environment found := by
  refine ⟨set.discovered environment files, ?_⟩
  exact {
    whole := set.wantedPaths_eq environment files
    offered := fun path => set.mem_discovered_iff environment wellNamed
    ascending := set.ascending_discovered environment files
    distinct := pairwise_newPaths _ _
    kept := by
      intro path offers
      rw [wantedPaths_eq]
      exact newPaths_covers _ _ path (FileSystem.mem_scriptsIn_iff.mpr offers)
    unordered := by
      intro others reorders
      rw [wantedPaths_eq, wantedPaths_eq]
      refine congrArg (set.settings.scripts ++ ·) (Path.eq_of_ascending ?_ ?_ fun path => ?_)
      · exact set.ascending_discovered environment others
      · exact set.ascending_discovered environment files
      · rw [mem_discovered_iff set environment (reorders.wellNamed wellNamed),
          mem_discovered_iff set environment wellNamed]
        exact and_congr_left' ⟨reorders.symm.offers, reorders.offers⟩
    unlisted := by
      intro unlisted
      rw [discovered, FileSystem.scriptsIn_eq_nil unlisted, newPaths] }

/-- A directory that lists two scripts backwards; the settings ask for one of them twice, with a slash more. -/
theorem wants_what_is_offered_backwards :
    let names := [Utf8.encode "b.py", Utf8.encode "notes", Utf8.encode "a.py"]
    let explicit : Path := .ofString "s//b.py"
    let set : ScriptSet := ⟨{ scripts := [explicit, explicit], scriptDirectory := some (.ofString "s") }, []⟩
    (FileSystem.folder names).WellNamed ∧ (FileSystem.folder names).Reorders (FileSystem.folder names.reverse) ∧
      set.wantedPaths (FileSystem.folder names) [] = [explicit, explicit, .ofString "s/a.py"] ∧
      set.wantedPaths (FileSystem.folder names.reverse) [] = [explicit, explicit, .ofString "s/a.py"] := by
  intro names explicit set
  have wellNamed : (FileSystem.folder names).WellNamed := FileSystem.wellNamed_folder (by decide +kernel)
  have reorders : (FileSystem.folder names).Reorders (FileSystem.folder names.reverse) :=
    FileSystem.reorders_folder (List.reverse_perm names).symm
  obtain ⟨found, wants⟩ := set.wants_what_is_offered [] wellNamed
  have listed : (FileSystem.folder names).scriptsIn (.ofString "s") = [.ofString "s/a.py", .ofString "s/b.py"] := by
    have offered : (names.map fun name => (Path.ofString "s").join ⟨name⟩).filter (FileSystem.folder names).offersScript =
        [.ofString "s/b.py", .ofString "s/a.py"] := by decide +kernel
    have backwards : ((Path.ofString "s/b.py").compareTo (.ofString "s/a.py") != .gt) = false := by decide +kernel
    have listing : (FileSystem.folder names).list (.ofString "s") = .ok names := rfl
    rw [FileSystem.scriptsIn, listing]
    dsimp only
    rw [offered]
    simp [List.mergeSort, backwards]
  have wanted : set.wantedPaths (FileSystem.folder names) [] = [explicit, explicit, .ofString "s/a.py"] := by
    rw [wantedPaths]
    exact (congrArg (List.foldl addPath set.settings.scripts) listed).trans (by decide +kernel)
  exact ⟨wellNamed, reorders, wanted, (wants.unordered _ reorders).trans wanted⟩

end ScriptSet
end ScriptBridge
