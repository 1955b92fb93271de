import ScriptBridge.Cli.Run
import ScriptBridge.Proofs.Bus.Firings

/-!
# Dispatching key releases against a manifest

A dispatch registers a manifest, writes a key event for each target, and sends the events over the bus to the one script
there is. What it prints can be told from the manifest, the targets and the key state alone: the targets that address the
script under one of its names fire, in their order, whatever turns the bus and the pump take. A target that is no wire
form ends the command before anything is sent.
-/
namespace ScriptBridge.Cli
open QualifiedName

/-- The name that a target fires: the text behind its first separator, when the text before it is the identity, the name
is one of those given, and the key state begins with a lower case u. -/
def firedTarget? (identity : ScriptId) (names : List String) (state target : String) : Option String :=
  if KeyMessage.isRelease (.string state) then
    (parse? target).bind fun key => if key.owner = identity ∧ key.name ∈ names then some key.name else none
  else none

/-- Only a release fires, and only with the target that is written for a name of the manifest and read as this one. -/
theorem firedTarget?_eq_some_iff {identity : ScriptId} {names : List String} {state target name : String} :
    firedTarget? identity names state target = some name ↔
      (∃ rest, state = "u" ++ rest) ∧ name ∈ names ∧ SetApart identity.name.toList ∧
        target.toList = identity.name.toList ++ separator ++ name.toList := by
  rw [← KeyMessage.isRelease_string_iff]
  unfold firedTarget?
  by_cases released : KeyMessage.isRelease (.string state) = true
  · rw [if_pos released, Option.bind_eq_some_iff]
    constructor
    · rintro ⟨key, parsed, chosen⟩
      split at chosen
      · rename_i addressed
        obtain ⟨rfl, known⟩ := addressed
        cases chosen
        obtain ⟨rfl, apart⟩ := parse?_eq_some_iff.mp parsed
        exact ⟨released, known, apart, toList_encode key⟩
      · cases chosen
    · rintro ⟨_, known, apart, written⟩
      have parsed : parse? target = some ⟨identity, name⟩ := by
        rw [parse?_eq_some_iff]
        exact ⟨String.toList_inj.mp (by rw [written, toList_encode]), apart⟩
      exact ⟨_, parsed, if_pos ⟨rfl, known⟩⟩
  · rw [if_neg released]
    simp [released]

/-! ### From targets to events -/

/-- The key event for a target that is a wire form fires the name that the target fires. -/
theorem firedName?_ofKey {target : String} {key : QualifiedName} (parsed : parse? target = some key)
    (identity : ScriptId) (names : List String) (state : String) :
    firedName? identity names (.ofKey key state) = firedTarget? identity names state target := by
  obtain ⟨same, _⟩ := parse?_eq_some_iff.mp parsed
  unfold firedName? firedTarget?
  rw [Event.released?_ofKey (same ▸ parsed) state, parsed]
  cases KeyMessage.isRelease (.string state) <;> rfl

theorem targetKeys_cons_cut {target : String} {key : QualifiedName} (parsed : parse? target = some key)
    (rest : List String) : targetKeys (target :: rest) = (targetKeys rest).map (key :: ·) := by
  cases read : targetKeys rest with
  | ok keys =>
    unfold targetKeys at read ⊢
    simp only [List.mapM_cons, parsed, read]
    rfl
  | error cause =>
    unfold targetKeys at read ⊢
    simp only [List.mapM_cons, parsed, read]
    rfl

theorem targetKeys_cons_uncut {target : String} (unparsed : parse? target = none) (rest : List String) :
    targetKeys (target :: rest) = .error (.text (target ++ " is not of the form <identity>___<name>")) := by
  unfold targetKeys
  rw [List.mapM_cons, unparsed]
  rfl

/-- Targets that hold the separator have keys, and the events for these fire what the targets fire. -/
theorem targetKeys_of_cut {targets : List String} (cut : ∀ target ∈ targets, separator <:+: target.toList) :
    ∃ keys, targetKeys targets = .ok keys ∧ keys.length = targets.length ∧
      ∀ (identity : ScriptId) (names : List String) (state : String),
        (keyEvents keys state).filterMap (firedName? identity names) =
          targets.filterMap (firedTarget? identity names state) := by
  induction targets with
  | nil => exact ⟨[], rfl, rfl, fun _ _ _ => rfl⟩
  | cons target rest ih =>
    obtain ⟨keys, read, length, fired⟩ := ih fun other member => cut other (List.mem_cons_of_mem _ member)
    obtain ⟨key, parsed⟩ := Option.isSome_iff_exists.mp (parse?_isSome_iff.mpr (cut target (List.mem_cons_self ..)))
    refine ⟨key :: keys, ?_, congrArg (· + 1) length, ?_⟩
    · rw [targetKeys_cons_cut parsed, read]
      rfl
    · intro identity names state
      have later := fired identity names state
      unfold keyEvents at later ⊢
      rw [List.map_cons, List.filterMap_cons, List.filterMap_cons, firedName?_ofKey parsed, later]

/-- Otherwise the first target that holds no separator is what the command complains of. -/
theorem targetKeys_of_uncut {front back : List String} {target : String}
    (cut : ∀ other ∈ front, separator <:+: other.toList) (uncut : ¬ separator <:+: target.toList) :
    targetKeys (front ++ target :: back) =
      .error (.text (target ++ " is not of the form <identity>___<name>")) := by
  induction front with
  | nil =>
    apply targetKeys_cons_uncut
    rw [← Option.not_isSome_iff_eq_none, parse?_isSome_iff]
    exact uncut
  | cons other rest ih =>
    obtain ⟨key, parsed⟩ := Option.isSome_iff_exists.mp (parse?_isSome_iff.mpr (cut other (List.mem_cons_self ..)))
    rw [List.cons_append, targetKeys_cons_cut parsed,
      ih fun later member => cut later (List.mem_cons_of_mem _ member)]
    rfl

theorem exists_first_uncut {targets : List String} (some : ¬ ∀ target ∈ targets, separator <:+: target.toList) :
    ∃ front target back, targets = front ++ target :: back ∧ (∀ other ∈ front, separator <:+: other.toList) ∧
      ¬ separator <:+: target.toList := by
  induction targets with
  | nil => simp at some
  | cons target rest ih =>
    by_cases cut : separator <:+: target.toList
    · have later : ¬ ∀ other ∈ rest, separator <:+: other.toList := fun all =>
        some (List.forall_mem_cons.mpr ⟨cut, all⟩)
      obtain ⟨front, found, back, rfl, before, uncut⟩ := ih later
      exact ⟨target :: front, found, back, rfl, List.forall_mem_cons.mpr ⟨cut, before⟩, uncut⟩
    · exact ⟨[], target, rest, rfl, by simp, cut⟩

/-! ### What is sent and what is logged -/

/-- No key event is a shutdown, so one is sent behind them. -/
theorem broadcasts_keyEvents (keys : List QualifiedName) (state : String) :
    Bridge.broadcasts (keyEvents keys state) = keyEvents keys state ++ [.shutdown] := by
  induction keys with
  | nil => rfl
  | cons key rest ih =>
    unfold keyEvents at ih ⊢
    rw [List.map_cons, Bridge.broadcasts_cons, ih]
    rfl

theorem loggedTexts_firingLog (script : ScriptState) (names : List String) (events : List Event) :
    loggedTexts (events.flatMap (script.firingLog names)) .info =
      (events.filterMap (firedName? script.identity names)).map (firedText script.identity) ∧
    loggedTexts (events.flatMap (script.firingLog names)) .error = [] := by
  induction events with
  | nil => exact ⟨rfl, rfl⟩
  | cons event rest ih =>
    obtain ⟨infos, errors⟩ := ih
    unfold loggedTexts at infos errors ⊢
    rw [List.flatMap_cons, List.filterMap_append, List.filterMap_append, infos, errors, List.filterMap_cons]
    unfold ScriptState.firingLog
    cases firedName? script.identity names event with
    | none => exact ⟨rfl, rfl⟩
    | some name => exact ⟨rfl, rfl⟩

/-! ### The command -/

/-- The report on a dispatch of so many targets, of which so many fire. -/
def dispatchReport (identity : ScriptId) (targets fired : Nat) : PumpReport :=
  { identity := identity, events := targets + 1, invoked := fired }

/-- What a run over a bus comes to for the script of a dispatch: one report, an info entry for each target that fires,
and no error entry. -/
structure Replays (identity : ScriptId) (targets : Nat) (fired : List String) (reports : List PumpReport)
    (calls : List HostRequest) : Prop where
  reports : reports = [dispatchReport identity targets fired.length]
  infos : loggedTexts calls .info = fired.map (firedText identity)
  errors : loggedTexts calls .error = []

section Replay
variable {identity : ScriptId} {script : ScriptState} {names targets : List String} {state : String}
  {keys : List QualifiedName}

/-- A run that loses nothing comes to the firings of the targets, since the keys are read from these. -/
theorem replays_of_ranAlone (own : script.identity = identity) (length : keys.length = targets.length)
    (fired : (keyEvents keys state).filterMap (firedName? identity names) =
      targets.filterMap (firedTarget? identity names state))
    {host : Host} {ran : Run host.State Bridge}
    (alone : Bridge.RanAlone script names (Bridge.broadcasts (keyEvents keys state)) ran) :
    Replays identity targets.length (targets.filterMap (firedTarget? identity names state))
      (ran.value.pumps.map Pump.report) ran.calls := by
  obtain ⟨infos, errors⟩ := loggedTexts_firingLog script names (Bridge.broadcasts (keyEvents keys state))
  have names_fired : (Bridge.broadcasts (keyEvents keys state)).filterMap (firedName? script.identity names) =
      targets.filterMap (firedTarget? identity names state) := by
    rw [own, broadcasts_keyEvents, List.filterMap_append, fired]
    exact List.append_nil _
  have sent : (Bridge.broadcasts (keyEvents keys state)).length = targets.length + 1 := by
    rw [broadcasts_keyEvents, List.length_append, ← length]
    unfold keyEvents
    rw [List.length_map]
    rfl
  rw [names_fired] at infos
  refine ⟨?_, ?_, ?_⟩
  · rw [alone.reports, names_fired, sent, own]
    rfl
  · rw [alone.calls, infos, own]
  · rw [alone.calls, errors]

/-- The bus has room for the key events of at most 255 targets and for the shutdown behind them. -/
theorem broadcasts_fit (length : keys.length = targets.length) (few : targets.length ≤ 255) (state : String) :
    (Bridge.broadcasts (keyEvents keys state)).length ≤ 2 ^ Nat.clog 2 defaultCapacity := by
  have room : 2 ^ Nat.clog 2 defaultCapacity = 256 := by
    rw [← Broadcast.ringSize_eq]
    rfl
  rw [room, broadcasts_keyEvents, List.length_append]
  unfold keyEvents
  rw [List.length_map, List.length_singleton]
  omega

/-- The journal is told turn by turn along the schedule of the run itself. -/
theorem replay_of_started {opened : Bridge} (started : Bridge.ofScripts [script] defaultCapacity = .ok opened)
    (events : List Event) :
    replay script events =
      let host := SimulatedHost.host
      let state := (submission script).state.forget
      let waiting := { opened with pending := events }
      .ok (((opened.run events).run host state).value, ((opened.run events).run host state).calls,
        followJournal host state waiting [] waiting.sequentialSchedule) := by
  simp only [replay, started, bind, Except.bind, pure, Except.pure]

/-- The run of the command itself comes to this, too. -/
theorem exists_replay (own : script.identity = identity) (logs : script.LogsFirings names) {opened : Bridge}
    (started : Bridge.ofScripts [script] defaultCapacity = .ok opened) (length : keys.length = targets.length)
    (fired : (keyEvents keys state).filterMap (firedName? identity names) =
      targets.filterMap (firedTarget? identity names state))
    (few : targets.length ≤ 255) :
    ∃ reports calls journal, replay script (keyEvents keys state) = .ok (reports, calls, journal) ∧
      Replays identity targets.length (targets.filterMap (firedTarget? identity names state)) reports calls := by
  obtain ⟨ran, alone, reports, calls⟩ :=
    Bridge.run_alone logs started (broadcasts_fit length few state) SimulatedHost.host (submission script).state.forget
  have replays := replays_of_ranAlone own length fired alone
  rw [← reports, ← calls] at replays
  exact ⟨_, _, _, replay_of_started started _, replays⟩

end Replay

section Command
variable {around : Surroundings} {path : Path} {identity : ScriptId} {script : ScriptState} {targets : List String}
  {state : String} {keys : List QualifiedName} {registering journal : List JournalLine}

theorem registeredScript_of_register {manifest : Manifest} (loaded : Manifest.load around.files path = .ok manifest)
    (identified : manifest.identityFor? path = some identity)
    (registers : manifest.register (.fresh identity) = (script, .ok ())) :
    registeredScript around.files path = (.ok script, registrationJournal manifest (.fresh identity)) := by
  unfold registeredScript
  rw [loaded]
  dsimp only
  rw [identified]
  dsimp only
  rw [registers]

/-- The command prints what the run over the bus comes to. -/
theorem runDispatch_of_replay (registered : registeredScript around.files path = (.ok script, registering))
    (read : targetKeys targets = .ok keys) {reports : List PumpReport} {calls : List HostRequest}
    (ran : replay script (keyEvents keys state) = .ok (reports, calls, journal)) {fired : List String}
    (replays : Replays identity targets.length fired reports calls) :
    (runDispatch around path targets state).error = none ∧
      (runDispatch around path targets state).printed =
        reportLine (dispatchReport identity targets.length fired.length) ::
          fired.map fun name => "  " ++ firedText identity name := by
  unfold runDispatch
  rw [registered, read]
  dsimp only
  rw [ran]
  refine ⟨rfl, ?_⟩
  dsimp only
  rw [replays.reports, replays.infos, replays.errors, List.map_map]
  exact List.append_nil _

/-- A target without the separator ends the command before anything is sent; by then the script has been started. -/
theorem runDispatch_of_uncut (registered : registeredScript around.files path = (.ok script, registering))
    {front back : List String} {target : String} (cut : ∀ other ∈ front, separator <:+: other.toList)
    (uncut : ¬ separator <:+: target.toList) :
    runDispatch around path (front ++ target :: back) state =
      { files := around.files
        journal := registering ++ openingJournal script
        error := some (.text (target ++ " is not of the form <identity>___<name>")) } := by
  unfold runDispatch
  rw [registered, targetKeys_of_uncut cut uncut]

end Command

/-- For every manifest that parses and registers, and at most 255 targets: when all targets hold the separator, then
whatever turns are taken the run comes to the targets that fire, and this is what the command prints. Otherwise the
command fails with the first target that holds none; it prints nothing, and no event is sent. -/
theorem dispatch_end_to_end (around : Surroundings) (path : Path) (targets : List String) (state : String)
    {manifest : Manifest} {identity : ScriptId} {script : ScriptState}
    (loaded : Manifest.load around.files path = .ok manifest) (identified : manifest.identityFor? path = some identity)
    (registers : manifest.register (.fresh identity) = (script, .ok ())) (few : targets.length ≤ 255) :
    let fired := targets.filterMap (firedTarget? identity manifest.names state)
    (∀ target name, firedTarget? identity manifest.names state target = some name ↔
      (∃ rest, state = "u" ++ rest) ∧ name ∈ manifest.names ∧ SetApart identity.name.toList ∧
        target.toList = identity.name.toList ++ separator ++ name.toList) ∧
    ((∀ target ∈ targets, separator <:+: target.toList) →
      ∃ keys opened, targetKeys targets = .ok keys ∧ Bridge.ofScripts [script] defaultCapacity = .ok opened ∧
        (∀ (host : Host) (start : host.State) (schedule : List Turn),
          let after := fun schedule =>
            (({ opened with pending := keyEvents keys state } : Bridge).follow schedule).run host start
          (∃ more, (after (schedule ++ more)).value.Returned) ∧
          ((after schedule).value.Returned →
            Replays identity targets.length fired ((after schedule).value.pumps.map Pump.report)
              (after schedule).calls)) ∧
        (runDispatch around path targets state).error = none ∧
        (runDispatch around path targets state).printed =
          reportLine (dispatchReport identity targets.length fired.length) ::
            fired.map fun name => "  " ++ firedText identity name) ∧
    ((¬ ∀ target ∈ targets, separator <:+: target.toList) →
      ∃ front target back, targets = front ++ target :: back ∧ (∀ other ∈ front, separator <:+: other.toList) ∧
        ¬ separator <:+: target.toList ∧
        runDispatch around path targets state =
          { files := around.files
            journal := registrationJournal manifest (.fresh identity) ++ openingJournal script
            error := some (.text (target ++ " is not of the form <identity>___<name>")) }) := by
  intro fired
  obtain ⟨own, logs⟩ := Manifest.logsFirings_of_register registers
  have registered := registeredScript_of_register loaded identified registers
  refine ⟨fun _ _ => firedTarget?_eq_some_iff, ?_, ?_⟩
  · intro cut
    obtain ⟨keys, read, length, firedKeys⟩ := targetKeys_of_cut cut
    obtain ⟨opened, started⟩ := (Bridge.exists_ofScripts_iff [script] (by decide : 1 ≤ defaultCapacity)).mpr (by decide)
    have firedHere := firedKeys identity manifest.names state
    refine ⟨keys, opened, read, started, ?_, ?_⟩
    · intro host start schedule
      obtain ⟨returns, concludes⟩ := Bridge.runs_alone logs started (broadcasts_fit length few state) host start schedule
      exact ⟨returns, fun returned => replays_of_ranAlone own length firedHere (concludes returned)⟩
    · obtain ⟨reports, calls, journal, ran, replays⟩ := exists_replay own logs started length firedHere few
      exact runDispatch_of_replay registered read ran replays
  · intro uncut
    obtain ⟨front, target, back, rfl, before, broken⟩ := exists_first_uncut uncut
    exact ⟨front, target, back, rfl, before, broken, runDispatch_of_uncut registered before broken⟩

/-- A manifest with a named and an unnamed entry, filed under `go` and under its third id. Of three releases the second
is for another script. -/
theorem dispatch_end_to_end_unnamed :
    let path : Path := .ofString "a"
    let around : Surroundings :=
      { files := ⟨.directory [(Utf8.encode "a", .file "[[binding]]\nname='go'\n[[binding]]".toUTF8)], []⟩ }
    let manifest : Manifest := ⟨none, [⟨none, some "go", false, []⟩, ⟨none, none, false, []⟩], []⟩
    let targets := ["a___go", "b___go", "a_____keybinding3"]
    Manifest.load around.files path = .ok manifest ∧ manifest.identityFor? path = some ⟨"a"⟩ ∧
    (manifest.register (.fresh ⟨"a"⟩)).2 = .ok () ∧ targets.length ≤ 255 ∧
    (runDispatch around path targets "u-").error = none ∧
    (runDispatch around path targets "u-").printed =
      ["a: 4 event(s), 2 invoked, 0 failed", "  (a) fired go", "  (a) fired __keybinding3"] := by
  intro path around manifest targets
  -- Manifests cannot be compared, since the options in them cannot; their fields can, where there are no options.
  have apart : (Manifest.load around.files path).toOption.map (fun read =>
      (read.identity, read.observations.map ManifestWatch.name)) = some (none, []) := by
    decide +kernel
  have entries : (Manifest.load around.files path).toOption.map (fun read =>
      read.bindings.map fun entry => (entry.key, entry.name, entry.builtin, entry.options.map Prod.fst)) =
      some [(none, some "go", false, []), (none, none, false, [])] := by
    decide +kernel
  have loaded : Manifest.load around.files path = .ok manifest := by
    cases read : Manifest.load around.files path with
    | error cause =>
      rw [read] at apart
      cases apart
    | ok found =>
      rw [read] at apart entries
      obtain ⟨identity, bindings, observations⟩ := found
      simp only [Except.toOption, Option.map_some, Option.some.injEq, Prod.mk.injEq, List.map_eq_nil_iff] at apart
      simp only [Except.toOption, Option.map_some, Option.some.injEq, Prod.mk.injEq, List.map_eq_cons_iff,
        List.map_eq_nil_iff] at entries
      obtain ⟨rfl, rfl⟩ := apart
      obtain ⟨⟨⟩, _, rfl, ⟨rfl, rfl, rfl, rfl⟩, ⟨⟩, _, rfl, ⟨rfl, rfl, rfl, rfl⟩, rfl⟩ := entries
      rfl
  have identified : manifest.identityFor? path = some ⟨"a"⟩ := by
    decide +kernel
  have few : targets.length ≤ 255 := by
    decide
  have cut : ∀ target ∈ targets, separator <:+: target.toList := by
    decide +kernel
  have fired : targets.filterMap (firedTarget? ⟨"a"⟩ manifest.names "u-") = ["go", "__keybinding3"] := by
    decide +kernel
  obtain ⟨_, succeeds, _⟩ := dispatch_end_to_end around path targets "u-" loaded identified rfl few
  obtain ⟨_, _, _, _, _, error, printed⟩ := succeeds cut
  refine ⟨loaded, identified, rfl, few, error, ?_⟩
  rw [printed, fired]
  decide +kernel

end ScriptBridge.Cli
