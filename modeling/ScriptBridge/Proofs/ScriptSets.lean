import ScriptBridge.Host.Simulated
import ScriptBridge.Script.Loaded
import ScriptBridge.Proofs.Containment

/-!
# Sets of loaded scripts

A set of scripts grows by loading and changes by answering events. An attempt to load a path ends in one of three ways,
and appends one script, in the state in which its registrations left it, or changes nothing; an event reaches each script
in its place, as if that script were alone.
-/
namespace ScriptBridge

/-- A way of loading that leaves a script in one of the states that a script can be in. -/
def OnLoad.Registers (onLoad : OnLoad) : Prop :=
  ∀ (identity : ScriptId) (host : Host) (state : host.State) (registered : ScriptState),
    ((onLoad (.fresh identity)).run host state).value = .ok registered → registered.Reachable identity

/-- A way of loading that registers one binding. -/
def OnLoad.registering (request : BindingRequest) (callback : Option Callback) : OnLoad := fun script =>
  pure (.ok (script.register request callback))

theorem OnLoad.registers_registering (request : BindingRequest) (callback : Option Callback) :
    OnLoad.Registers (.registering request callback) := by
  intro identity host state registered done
  cases done
  exact .register .fresh request callback

namespace ScriptSet

/-- The sets that come about by loading scripts and by answering events. -/
inductive Reachable : ScriptSet → Prop where
  | empty (settings : ScriptingSettings) : Reachable { settings := settings }
  | load {set : ScriptSet} (before : Reachable set) (files : FileSystem) (path : Path) (onLoad : OnLoad)
      (registers : OnLoad.Registers onLoad) (host : Host) (state : host.State) :
      Reachable ((set.load files path onLoad).run host state).value.2
  | answer {set : ScriptSet} (before : Reachable set) (event : Event) (host : Host) (state : host.State) :
      Reachable ((set.answerEvent event).run host state).value.2

/-- The identity of a script that can be loaded from some tree of files. -/
def Loadable (identity : ScriptId) : Prop := ∃ files path, vet files path = .ok identity

def push (set : ScriptSet) (loaded : LoadedScript) : ScriptSet := { set with scripts := set.scripts ++ [loaded] }

/-- Loads one path by itself, without a set that a script would be added to. -/
def attempt (settings : ScriptingSettings) (files : FileSystem) (onLoad : OnLoad) (path : Path) :
    Program (Except BridgeError LoadedScript) :=
  match vet files path with
  | .error error => pure (.error error)
  | .ok identity => do
    let outcome ← start settings identity onLoad
    pure (outcome.map fun script => ⟨path, script⟩)

/-- The set after an attempt: one more script, or the same. -/
def afterAttempt (set : ScriptSet) : Except BridgeError LoadedScript → ScriptSet
  | .ok loaded => set.push loaded
  | .error _ => set

/-- What an attempt to load a path can come to, with the calls it makes and the state that it leaves the host in. -/
inductive Attempted (settings : ScriptingSettings) (files : FileSystem) (onLoad : OnLoad) (path : Path) (host : Host)
    (state : host.State) : Run host.State (Except BridgeError LoadedScript) → Prop where
  /-- The path gives no identity or leads to no file. Nothing runs. -/
  | unfit {error : BridgeError} (vetted : vet files path = .error error) :
      Attempted settings files onLoad path host state ⟨.error error, [], state⟩
  /-- The script's own loading fails. Nothing follows it. -/
  | refused {identity : ScriptId} {cause : ScriptError} {subscribed : Run host.State Unit}
      {own : Run host.State (Except ScriptError ScriptState)} (vetted : vet files path = .ok identity)
      (subscribes : (subscribe settings (.fresh identity)).run host state = subscribed)
      (runs : (onLoad (.fresh identity)).run host subscribed.state = own) (fails : own.value = .error cause) :
      Attempted settings files onLoad path host state
        ⟨.error (.scriptLoad identity cause), subscribed.calls ++ own.calls, own.state⟩
  /-- The script's own loading succeeds, and what it registered is handed to the host. -/
  | loaded {identity : ScriptId} {registered : ScriptState} {subscribed : Run host.State Unit}
      {own : Run host.State (Except ScriptError ScriptState)} {submitted : Run host.State SectionPair}
      (vetted : vet files path = .ok identity)
      (subscribes : (subscribe settings (.fresh identity)).run host state = subscribed)
      (runs : (onLoad (.fresh identity)).run host subscribed.state = own) (done : own.value = .ok registered)
      (submits : (registered.submit settings.enableClientMessages).run host own.state = submitted) :
      Attempted settings files onLoad path host state
        ⟨.ok ⟨path, registered⟩, subscribed.calls ++ own.calls ++ submitted.calls, submitted.state⟩

theorem attempted (settings : ScriptingSettings) (files : FileSystem) (onLoad : OnLoad) (path : Path) (host : Host)
    (state : host.State) :
    Attempted settings files onLoad path host state ((attempt settings files onLoad path).run host state) := by
  cases vetted : vet files path with
  | error error =>
    simp only [attempt, vetted]
    exact .unfit vetted
  | ok identity =>
    simp only [attempt, vetted, start, Program.run_bind]
    cases ended : ((onLoad (.fresh identity)).run host
        ((subscribe settings (.fresh identity)).run host state).state).value with
    | error cause =>
      simp only [Program.run_pure, List.append_nil]
      exact .refused vetted rfl rfl ended
    | ok registered =>
      simp only [Program.run_bind, Program.run_pure, List.append_nil, ← List.append_assoc]
      exact .loaded vetted rfl rfl ended rfl

/-- Loading a path into a set is the attempt, and then the addition of what it came to. -/
theorem load_run (set : ScriptSet) (files : FileSystem) (path : Path) (onLoad : OnLoad) (host : Host)
    (state : host.State) :
    let tried := (attempt set.settings files onLoad path).run host state
    (set.load files path onLoad).run host state =
      ⟨(do let _ ← tried.value; vet files path, set.afterAttempt tried.value), tried.calls, tried.state⟩ := by
  cases vetted : vet files path with
  | error error =>
    simp only [attempt, load, vetted]
    rfl
  | ok identity =>
    simp only [attempt, load, vetted, Program.run_bind]
    cases ((start set.settings identity onLoad).run host state).value <;> rfl

/-- Loading from a path that was vetted appends the script if its own loading succeeds, and changes nothing if not. -/
theorem load_value (set : ScriptSet) {files : FileSystem} {path : Path} {identity : ScriptId} (onLoad : OnLoad)
    (vetted : vet files path = .ok identity) (host : Host) (state : host.State) :
    ∃ begun : host.State, ((set.load files path onLoad).run host state).value =
      match ((onLoad (.fresh identity)).run host begun).value with
      | .ok registered => (.ok identity, set.push ⟨path, registered⟩)
      | .error cause => (.error (.scriptLoad identity cause), set) := by
  have tried := attempted set.settings files onLoad path host state
  rw [load_run]
  generalize (attempt set.settings files onLoad path).run host state = visit at tried ⊢
  cases tried with
  | unfit unvetted =>
    rw [vetted] at unvetted
    cases unvetted
  | @refused _ _ subscribed _ fit _ runs fails =>
    cases vetted.symm.trans fit
    refine ⟨subscribed.state, ?_⟩
    rw [runs, fails]
    rfl
  | @loaded _ _ subscribed _ _ fit _ runs done _ =>
    cases vetted.symm.trans fit
    refine ⟨subscribed.state, ?_⟩
    rw [runs, done, vetted]
    rfl

/-- A script that registers one binding when it is loaded can be added to every reachable set. -/
theorem Reachable.push {set : ScriptSet} (reachable : set.Reachable) {files : FileSystem} {path : Path}
    {identity : ScriptId} (vetted : vet files path = .ok identity) (request : BindingRequest)
    (callback : Option Callback) :
    (set.push ⟨path, (ScriptState.fresh identity).register request callback⟩).Reachable := by
  obtain ⟨begun, loaded⟩ :=
    set.load_value (.registering request callback) vetted SimulatedHost.host ({} : SimulatedHost)
  have after := reachable.load files path (.registering request callback)
    (OnLoad.registers_registering request callback) SimulatedHost.host ({} : SimulatedHost)
  rw [loaded] at after
  exact after

/-- The callback runs in the answers of scripts to an event, a place for each script. Each script finds the host as the
ones before it left it. -/
def deliveries (host : Host) (event : Event) : List LoadedScript → host.State → List (Option Firing)
  | [], _ => []
  | loaded :: rest, state =>
    loaded.state.firing? host state event ::
      deliveries host event rest ((loaded.state.answer event).run host state).state

/-- In its place every script answers as it does alone, in the host state that it finds. -/
theorem answerAll_place (event : Event) (scripts : List LoadedScript) (host : Host) (state : host.State) {index : Nat}
    {loaded : LoadedScript} (present : scripts[index]? = some loaded) :
    ∃ begun : host.State,
      let answered := (loaded.state.answer event).run host begun
      ((answerAll event scripts).run host state).value.1[index]? = some (loaded.state.identity, answered.value.1) ∧
      ((answerAll event scripts).run host state).value.2[index]? = some { loaded with state := answered.value.2 } ∧
      (deliveries host event scripts state)[index]? = some (loaded.state.firing? host begun event) := by
  induction scripts generalizing state index with
  | nil => simp at present
  | cons head rest ih =>
    simp only [answerAll, deliveries, Program.run_bind, Program.run_pure]
    cases index with
    | zero =>
      simp only [List.getElem?_cons_zero, Option.some.injEq] at present
      subst present
      exact ⟨state, by simp [(head.state.answer_sameRegistrations event host state).identity]⟩
    | succ index =>
      simp only [List.getElem?_cons_succ] at present ⊢
      exact ih _ present

theorem run_answerEvent (set : ScriptSet) (event : Event) (host : Host) (state : host.State) :
    (set.answerEvent event).run host state =
      let all := (answerAll event set.scripts).run host state
      ⟨(all.value.1, { set with scripts := all.value.2 }), all.calls, all.state⟩ := by
  simp only [answerEvent, Program.run_bind, Program.run_pure, List.append_nil]

theorem answerEvent_getElem? (event : Event) {set : ScriptSet} {index : Nat} {loaded : LoadedScript}
    (present : set.scripts[index]? = some loaded) (host : Host) (state : host.State) :
    ∃ begun : host.State,
      let answered := ((loaded.state.answer event).run host begun).value
      ((set.answerEvent event).run host state).value.1[index]? = some (loaded.state.identity, answered.1) ∧
      ((set.answerEvent event).run host state).value.2.scripts[index]? = some { loaded with state := answered.2 } := by
  obtain ⟨begun, given, after, -⟩ := answerAll_place event set.scripts host state present
  rw [run_answerEvent]
  exact ⟨begun, given, after⟩

end ScriptSet
end ScriptBridge
