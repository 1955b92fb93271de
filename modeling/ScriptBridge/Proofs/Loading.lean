import Mathlib.Data.List.Basic
import ScriptBridge.Proofs.ScriptSets

/-!
# Loading the configured scripts

Each configured path is tried once, in order, on the host as the paths before it left it. It fails before anything runs
when it gives no identity or leads to no file; otherwise its own loading runs, and what that comes to decides. A path
that succeeds appends one script, a path that fails is reported, and neither touches what is there already.
-/
namespace ScriptBridge

/-- Runs a program for each item, from where the run for the item before left the host. -/
def Program.runEach {ι α : Type} (host : Host) (program : ι → Program α) :
    host.State → List ι → List (ι × Run host.State α)
  | _, [] => []
  | state, item :: rest =>
    let run := (program item).run host state
    (item, run) :: runEach host program run.state rest

theorem Program.map_fst_runEach {ι α : Type} (host : Host) (program : ι → Program α) (state : host.State)
    (items : List ι) : (runEach host program state items).map Prod.fst = items := by
  induction items generalizing state with
  | nil => rfl
  | cons item rest ih => simp only [runEach, List.map_cons, ih]

theorem Program.exists_begun_of_mem_runEach {ι α : Type} {host : Host} {program : ι → Program α} {state : host.State}
    {items : List ι} {item : ι} {run : Run host.State α} (member : (item, run) ∈ runEach host program state items) :
    ∃ begun, run = (program item).run host begun := by
  induction items generalizing state with
  | nil => cases member
  | cons first rest ih =>
    rcases List.mem_cons.mp member with same | later
    · cases same
      exact ⟨state, rfl⟩
    · exact ih later

namespace ScriptSet

theorem settings_afterAttempt (set : ScriptSet) (outcome : Except BridgeError LoadedScript) :
    (set.afterAttempt outcome).settings = set.settings := by
  cases outcome <;> rfl

/-- The failure that an attempt reports. -/
def failure? {σ : Type} (visit : Path × Run σ (Except BridgeError LoadedScript)) : Option (Path × BridgeError) :=
  match visit.2.value with
  | .ok _ => none
  | .error error => some (visit.1, error)

/-- Loading a list of paths is the attempt at the first one, and then the loading of the rest into what that led to. -/
theorem loadAll_cons_run (set : ScriptSet) (files : FileSystem) (onLoad : Path → OnLoad) (path : Path)
    (rest : List Path) (host : Host) (state : host.State) :
    let tried := (attempt set.settings files (onLoad path) path).run host state
    let later := ((set.afterAttempt tried.value).loadAll files onLoad rest).run host tried.state
    (set.loadAll files onLoad (path :: rest)).run host state =
      ⟨((failure? (path, tried)).toList ++ later.value.1, later.value.2), tried.calls ++ later.calls, later.state⟩ := by
  intro tried later
  have fit : ∀ loaded, tried.value = .ok loaded → ∃ identity, vet files path = .ok identity := by
    intro loaded ended
    cases vetted : vet files path with
    | ok identity => exact ⟨identity, rfl⟩
    | error error => simp [tried, attempt, vetted] at ended
  simp only [loadAll, Program.run_bind, load_run]
  cases ended : tried.value with
  | error error =>
    simp only [tried] at ended
    simp only [later, tried, failure?, ended, Option.toList_some, List.singleton_append]
    simp only [bind, Except.bind, Program.run_pure, List.append_nil]
  | ok loaded =>
    obtain ⟨identity, vetted⟩ := fit loaded ended
    simp only [tried] at ended
    simp only [later, tried, failure?, ended, vetted, Option.toList_none, List.nil_append]
    simp only [bind, Except.bind, Program.run_pure, List.append_nil]

/-- The attempts at the paths of a list, one after another. -/
def visits (settings : ScriptingSettings) (files : FileSystem) (onLoad : Path → OnLoad) (host : Host)
    (state : host.State) (paths : List Path) : List (Path × Run host.State (Except BridgeError LoadedScript)) :=
  Program.runEach host (fun path => attempt settings files (onLoad path) path) state paths

/-- Loading a list of paths appends what the successful attempts came to, reports the others, and makes the calls of the
attempts and no other. -/
theorem loadAll_run (set : ScriptSet) (files : FileSystem) (onLoad : Path → OnLoad) (paths : List Path) (host : Host)
    (state : host.State) :
    let tried := visits set.settings files onLoad host state paths
    let left := (set.loadAll files onLoad paths).run host state
    left.value.2 = { set with scripts := set.scripts ++ tried.filterMap (·.2.value.toOption) } ∧
    left.value.1 = tried.filterMap failure? ∧
    left.calls = tried.flatMap (·.2.calls) := by
  -- The set grows on the way but its settings stay, and the attempts depend on nothing else of it.
  induction paths generalizing set state with
  | nil => simp [loadAll, visits, Program.runEach]
  | cons path rest ih =>
    let first := (attempt set.settings files (onLoad path) path).run host state
    obtain ⟨scripts, failures, calls⟩ := ih (set.afterAttempt first.value) first.state
    rw [settings_afterAttempt] at scripts failures calls
    have visited : visits set.settings files onLoad host state (path :: rest) =
        (path, first) :: visits set.settings files onLoad host first.state rest := rfl
    rw [visited, loadAll_cons_run]
    refine ⟨?_, ?_, ?_⟩
    · refine scripts.trans ?_
      cases ended : first.value with
      | error error => simp [afterAttempt, ended, Except.toOption]
      | ok loaded => simp [afterAttempt, push, ended, Except.toOption]
    · refine (congrArg _ failures).trans ?_
      cases reported : failure? (path, first) with
      | none => rw [List.filterMap_cons_none reported]; rfl
      | some failure => rw [List.filterMap_cons_some reported]; rfl
    · exact congrArg _ calls

/-- Whether a script's own loading fails is decided by its path alone. -/
def DecidedByPath (onLoad : Path → OnLoad) (host : Host) (refuses : Path → Bool) : Prop :=
  ∀ (path : Path) (identity : ScriptId) (state : host.State),
    ((onLoad path (.fresh identity)).run host state).value.isOk = !refuses path

/-- What a script's own loading comes to is determined by its path, whatever state the host is in. -/
def DeterminedByPath (onLoad : Path → OnLoad) (host : Host) : Prop :=
  ∀ (path : Path) (identity : ScriptId) (state other : host.State),
    ((onLoad path (.fresh identity)).run host state).value = ((onLoad path (.fresh identity)).run host other).value

/-- A path is loaded when it is fit for that and its own loading does not refuse. -/
def loads (files : FileSystem) (refuses : Path → Bool) (path : Path) : Bool := (vet files path).isOk && !refuses path

section Visits

variable {settings : ScriptingSettings} {files : FileSystem} {onLoad : Path → OnLoad} {host : Host} {state : host.State}
  {refuses : Path → Bool} {paths : List Path}

/-- Whether a path is loaded does not depend on what was loaded before. -/
theorem Attempted.isOk_eq {path : Path} {visit : Run host.State (Except BridgeError LoadedScript)}
    (tried : Attempted settings files (onLoad path) path host state visit)
    (decided : DecidedByPath onLoad host refuses) :
    visit.value.isOk = loads files refuses path := by
  cases tried with
  | unfit vetted => simp only [loads, vetted]; rfl
  | @refused identity cause subscribed own vetted _ runs fails =>
    have refused := decided path identity subscribed.state
    rw [runs, fails] at refused
    simp only [loads, vetted, ← refused]
    rfl
  | @loaded identity registered subscribed own submitted vetted _ runs done _ =>
    have accepted := decided path identity subscribed.state
    rw [runs, done] at accepted
    simp only [loads, vetted, ← accepted]
    rfl

theorem Attempted.path_eq {path : Path} {visit : Run host.State (Except BridgeError LoadedScript)}
    (tried : Attempted settings files (onLoad path) path host state visit) {loaded : LoadedScript}
    (ended : visit.value = .ok loaded) : loaded.path = path := by
  cases tried <;> cases ended
  rfl

/-- What is picked from the attempts is picked from the paths, when each attempt gives what is expected of its path. -/
theorem filterMap_visits {β : Type} {picked : Path × Run host.State (Except BridgeError LoadedScript) → Option β}
    {expected : Path → Option β}
    (each : ∀ path begun, picked (path, (attempt settings files (onLoad path) path).run host begun) = expected path) :
    (visits settings files onLoad host state paths).filterMap picked = paths.filterMap expected := by
  have tried : (visits settings files onLoad host state paths).map Prod.fst = paths := Program.map_fst_runEach ..
  rw [← tried, List.filterMap_map, tried]
  refine List.filterMap_congr fun visit member => ?_
  obtain ⟨begun, ran⟩ := Program.exists_begun_of_mem_runEach member
  rw [Function.comp_apply, ← each visit.1 begun, ← ran]

/-- The attempts that succeed are those at the paths that are loaded. -/
theorem map_path_loaded (decided : DecidedByPath onLoad host refuses) :
    ((visits settings files onLoad host state paths).filterMap (·.2.value.toOption)).map (·.path) =
      paths.filter (loads files refuses) := by
  rw [List.map_filterMap, ← List.filterMap_eq_filter]
  refine filterMap_visits fun path begun => ?_
  have tried := attempted settings files (onLoad path) path host begun
  rw [Option.guard_eq_ite, ← tried.isOk_eq decided]
  cases ended : ((attempt settings files (onLoad path) path).run host begun).value with
  | error error => rfl
  | ok loaded =>
    rw [← tried.path_eq ended]
    rfl

/-- The failures that are reported are those of the paths that are not loaded. -/
theorem map_fst_failures (decided : DecidedByPath onLoad host refuses) :
    ((visits settings files onLoad host state paths).filterMap failure?).map Prod.fst =
      paths.filter fun path => !loads files refuses path := by
  rw [List.map_filterMap, ← List.filterMap_eq_filter]
  refine filterMap_visits fun path begun => ?_
  have tried := attempted settings files (onLoad path) path host begun
  rw [Option.guard_eq_ite, ← tried.isOk_eq decided, failure?]
  cases ((attempt settings files (onLoad path) path).run host begun).value <;> rfl

/-- Where the host makes no difference to a script's own loading, it makes none to the attempt. -/
theorem value_attempt_eq (determined : DeterminedByPath onLoad host) (path : Path) (first second : host.State) :
    ((attempt settings files (onLoad path) path).run host first).value =
      ((attempt settings files (onLoad path) path).run host second).value := by
  cases vetted : vet files path with
  | error error => simp only [attempt, vetted, Program.run_pure]
  | ok identity =>
    simp only [attempt, vetted, start, Program.run_bind]
    rw [determined path identity _ ((subscribe settings (.fresh identity)).run host second).state]
    cases ((onLoad path (.fresh identity)).run host
        ((subscribe settings (.fresh identity)).run host second).state).value <;>
      simp only [Program.run_bind, Program.run_pure]

end Visits

/-- What the loading of configured paths comes to when each path decides by itself: every position is tried once, and
is either loaded or reported. -/
structure LoadsEach (set : ScriptSet) (files : FileSystem) (onLoad : Path → OnLoad) (refuses : Path → Bool)
    {host : Host} (state : host.State) (paths : List Path)
    (left : Run host.State (List (Path × BridgeError) × ScriptSet)) : Prop where
  /-- Each path is tried at its position, and the script's own loading runs there exactly when the path is fit. -/
  tried : (visits set.settings files onLoad host state paths).map Prod.fst = paths ∧
    ∀ path visit, (path, visit) ∈ visits set.settings files onLoad host state paths →
      visit.value.isOk = loads files refuses path ∧
      ∃ begun, Attempted set.settings files (onLoad path) path host begun visit
  /-- What the successful attempts came to stands behind what was there. -/
  scripts : left.value.2 =
    { set with scripts :=
        set.scripts ++ (visits set.settings files onLoad host state paths).filterMap (·.2.value.toOption) }
  failures : left.value.1 = (visits set.settings files onLoad host state paths).filterMap failure?
  calls : left.calls = (visits set.settings files onLoad host state paths).flatMap (·.2.calls)
  loaded : left.value.2.scripts.map (·.path) = set.scripts.map (·.path) ++ paths.filter (loads files refuses)
  reported : left.value.1.map Prod.fst = paths.filter fun path => !loads files refuses path
  /-- Each path comes to what it would come to without the others, unless the host passes something on between them. -/
  alone : DeterminedByPath onLoad host →
    let alone := fun path => (attempt set.settings files (onLoad path) path).run host state
    left.value.2.scripts = set.scripts ++ paths.filterMap (fun path => (alone path).value.toOption) ∧
    left.value.1 = paths.filterMap fun path => failure? (path, alone path)

theorem loadsEach_loadAll (set : ScriptSet) (files : FileSystem) {onLoad : Path → OnLoad} {refuses : Path → Bool}
    {host : Host} (decided : DecidedByPath onLoad host refuses) (state : host.State) (paths : List Path) :
    set.LoadsEach files onLoad refuses state paths ((set.loadAll files onLoad paths).run host state) := by
  obtain ⟨scripts, failures, calls⟩ := set.loadAll_run files onLoad paths host state
  refine ⟨⟨Program.map_fst_runEach .., fun path visit member => ?_⟩, scripts, failures, calls, ?_, ?_,
    fun determined => ?_⟩
  · obtain ⟨begun, rfl⟩ := Program.exists_begun_of_mem_runEach member
    have tried := attempted set.settings files (onLoad path) path host begun
    exact ⟨tried.isOk_eq decided, begun, tried⟩
  · rw [scripts, List.map_append, map_path_loaded decided]
  · rw [failures, map_fst_failures decided]
  · have same : ∀ path begun, ((attempt set.settings files (onLoad path) path).run host begun).value =
        ((attempt set.settings files (onLoad path) path).run host state).value :=
      fun path begun => value_attempt_eq determined path begun state
    constructor
    · rw [scripts]
      refine congrArg (set.scripts ++ ·) (filterMap_visits fun path begun => ?_)
      exact congrArg Except.toOption (same path begun)
    · rw [failures]
      refine filterMap_visits fun path begun => ?_
      rw [failure?, failure?, same path begun]

/-- Two loadings of the same paths that can only differ in what one path decides agree on all the others. -/
theorem LoadsEach.agree_apart {set : ScriptSet} {files : FileSystem} {onLoad other : Path → OnLoad}
    {refuses refusesOther : Path → Bool} {host : Host} {state : host.State} {paths : List Path}
    {left leftOther : Run host.State (List (Path × BridgeError) × ScriptSet)}
    (each : set.LoadsEach files onLoad refuses state paths left)
    (eachOther : set.LoadsEach files other refusesOther state paths leftOther) {altered : Path}
    (same : ∀ path, path ≠ altered → refusesOther path = refuses path) :
    (leftOther.value.2.scripts.map (·.path)).filter (· ≠ altered) =
      (left.value.2.scripts.map (·.path)).filter (· ≠ altered) ∧
    (leftOther.value.1.map Prod.fst).filter (· ≠ altered) = (left.value.1.map Prod.fst).filter (· ≠ altered) := by
  have agree : ∀ path, path ≠ altered → loads files refusesOther path = loads files refuses path := by
    intro path different
    rw [loads, loads, same path different]
  constructor
  · rw [eachOther.loaded, each.loaded, List.filter_append, List.filter_append, List.filter_filter, List.filter_filter]
    congr 1
    refine List.filter_congr fun path _ => ?_
    by_cases different : path = altered <;> simp [different, agree]
  · rw [eachOther.reported, each.reported, List.filter_filter, List.filter_filter]
    refine List.filter_congr fun path _ => ?_
    by_cases different : path = altered <;> simp [different, agree]

/-- Loading the configured scripts loses and invents nothing. When scripting is turned on, every configured path is
loaded or reported, by itself and in its place, behind what was loaded before; so a path at which another loading
decides otherwise makes no difference to the rest. When scripting is turned off, nothing happens. -/
theorem loadWanted_loads_each (set : ScriptSet) (files : FileSystem) (environment : Environment)
    (onLoad : Path → OnLoad) (refuses : Path → Bool) (host : Host) (decided : DecidedByPath onLoad host refuses)
    (state : host.State) :
    let paths := set.wantedPaths files environment
    let left := (set.loadWanted files environment onLoad).run host state
    (set.settings.enabled = true →
      set.LoadsEach files onLoad refuses state paths left ∧
      ∀ (other : Path → OnLoad) (refusesOther : Path → Bool), DecidedByPath other host refusesOther →
        ∀ altered : Path, (∀ path, path ≠ altered → refusesOther path = refuses path) →
        let leftOther := (set.loadWanted files environment other).run host state
        set.scripts <+: leftOther.value.2.scripts ∧
        (leftOther.value.2.scripts.map (·.path)).filter (· ≠ altered) =
          (left.value.2.scripts.map (·.path)).filter (· ≠ altered) ∧
        (leftOther.value.1.map Prod.fst).filter (· ≠ altered) = (left.value.1.map Prod.fst).filter (· ≠ altered)) ∧
    (set.settings.enabled = false → left = ⟨([], set), [], state⟩) := by
  intro paths left
  constructor
  · intro enabled
    have each : ∀ {other : Path → OnLoad} {refusesOther : Path → Bool}, DecidedByPath other host refusesOther →
        set.LoadsEach files other refusesOther state paths
          ((set.loadWanted files environment other).run host state) := by
      intro other refusesOther decidedOther
      rw [loadWanted, if_pos enabled]
      exact set.loadsEach_loadAll files decidedOther state paths
    refine ⟨each decided, ?_⟩
    intro other refusesOther decidedOther altered same leftOther
    have eachOther := each decidedOther
    refine ⟨?_, (each decided).agree_apart eachOther same⟩
    rw [eachOther.scripts]
    exact List.prefix_append ..
  · intro disabled
    have off : ¬ set.settings.enabled = true := by simp [disabled]
    simp only [left, loadWanted, if_neg off, Program.run_pure]

/-- Of five configured paths one is listed twice, one leads to no file, one gives no identity, and the loading at one
refuses. If that one did not refuse, the rest would be as it is. -/
theorem loadWanted_loads_each_mixed :
    let good : Path := .ofString "good.py"
    let bad : Path := .ofString "bad.py"
    let files : FileSystem :=
      ⟨.directory [(Utf8.encode "bad.py", .file .empty), (Utf8.encode "good.py", .file .empty)], []⟩
    let onLoad : Path → OnLoad := fun path script =>
      pure (if path = bad then .error (.ofMessage "no") else .ok script)
    let willing : Path → OnLoad := fun _ script => pure (.ok script)
    let settings : ScriptingSettings := { scripts := [good, .ofString "gone.py", bad, .ofString "..", good] }
    let left := ((⟨settings, []⟩ : ScriptSet).loadWanted files [] onLoad).run SimulatedHost.host ({} : SimulatedHost)
    let other := ((⟨settings, []⟩ : ScriptSet).loadWanted files [] willing).run SimulatedHost.host ({} : SimulatedHost)
    left.value.2.scripts.map (·.path) = [good, good] ∧
    left.value.1 = [(.ofString "gone.py", .scriptNotFound (.ofString "gone.py")),
      (bad, .scriptLoad ⟨"bad"⟩ (.ofMessage "no")), (.ofString "..", .noIdentity (.ofString ".."))] ∧
    (other.value.2.scripts.map (·.path)).filter (· ≠ bad) = [good, good] ∧
    ((⟨{ settings with enabled := false }, []⟩ : ScriptSet).loadWanted files [] onLoad).run SimulatedHost.host
      ({} : SimulatedHost) = ⟨([], ⟨{ settings with enabled := false }, []⟩), [], ({} : SimulatedHost)⟩ := by
  intro good bad files onLoad willing settings left other
  have decided : DecidedByPath onLoad SimulatedHost.host fun path => decide (path = bad) := by
    intro path identity state
    by_cases refused : path = bad <;> simp [onLoad, refused, Except.isOk, Except.toBool]
  have decidedWilling : DecidedByPath willing SimulatedHost.host fun _ => false := fun _ _ _ => rfl
  have paths : (⟨settings, []⟩ : ScriptSet).wantedPaths files [] = settings.scripts := by
    decide +kernel
  obtain ⟨each, apart⟩ := (loadWanted_loads_each ⟨settings, []⟩ files [] onLoad _ SimulatedHost.host decided
    ({} : SimulatedHost)).1 rfl
  have loaded : left.value.2.scripts.map (·.path) = [good, good] := by
    rw [each.loaded, paths]
    decide +kernel
  refine ⟨loaded, ?_, ?_, ?_⟩
  · have determined : DeterminedByPath onLoad SimulatedHost.host := fun _ _ _ _ => rfl
    rw [(each.alone determined).2, paths]
    decide +kernel
  · have same : ∀ path, path ≠ bad → false = decide (path = bad) := fun path different => by simp [different]
    rw [(apart willing _ decidedWilling bad same).2.1, loaded]
    decide +kernel
  · exact (loadWanted_loads_each ⟨{ settings with enabled := false }, []⟩ files [] onLoad _ SimulatedHost.host decided
      ({} : SimulatedHost)).2 rfl

end ScriptSet
end ScriptBridge
