import ScriptBridge.Proofs.Containment
import ScriptBridge.Proofs.Keymap.History
import ScriptBridge.Proofs.Releases
import ScriptBridge.Script.Manifest

/-!
# What a manifest registers

The entries of a manifest are registered one after another, each with a callback that logs the name under which it is
filed. A name that several entries share is in the end filed once, under a callback that logs this same name; so which
names run a callback, and what it logs, is told by the list of the names alone.
-/
namespace ScriptBridge

/-- The name under which an entry is filed at its place in a manifest. -/
def ManifestBinding.nameAt (entry : ManifestBinding) (index : Nat) : String :=
  entry.name.getD (defaultName (Registration.idAt index))

/-- The text with which a callback logs that it fired. -/
def firedText (identity : ScriptId) (name : String) : String := "(" ++ identity.name ++ ") " ++ ("fired " ++ name)

/-- The name of the callback that the event runs in a script of this identity when these names have callbacks. -/
def firedName? (identity : ScriptId) (names : List String) (event : Event) : Option String :=
  event.released?.bind fun key => if key.owner = identity ∧ key.name ∈ names then some key.name else none

/-- Exactly the given names have callbacks, and each of these logs that it fired. -/
def ScriptState.LogsFirings (script : ScriptState) (names : List String) : Prop :=
  ∀ name, (script.keymap.callback? name).map Callback.body =
    if name ∈ names then some (Manifest.firedCallback script.access name).body else none

namespace Manifest

def names (manifest : Manifest) : List String := manifest.bindings.mapIdx fun index entry => entry.nameAt index

def history (access : HostAccess) (bindings : List ManifestBinding) : History :=
  bindings.mapIdx fun index entry => ⟨entry.request, some (firedCallback access (entry.nameAt index))⟩

theorem history_concat (access : HostAccess) (bindings : List ManifestBinding) (entry : ManifestBinding) :
    history access (bindings ++ [entry]) =
      history access bindings ++ [⟨entry.request, some (firedCallback access (entry.nameAt bindings.length))⟩] := by
  unfold history
  rw [List.mapIdx_concat]

theorem length_history (access : HostAccess) (bindings : List ManifestBinding) :
    (history access bindings).length = bindings.length := by
  unfold history
  rw [List.length_mapIdx]

/-- To register entries on an empty keymap is to register their history. -/
theorem foldl_registerBinding (script : ScriptState) (empty : script.keymap = { identity := script.identity })
    (bindings : List ManifestBinding) :
    (bindings.foldl registerBinding script).identity = script.identity ∧
    (bindings.foldl registerBinding script).keymap =
      Keymap.ofHistory script.identity (history script.access bindings) := by
  induction bindings using List.reverseRecOn with
  | nil => exact ⟨rfl, empty⟩
  | append_singleton bindings entry ih =>
    obtain ⟨identity, keymap⟩ := ih
    rw [List.foldl_append, List.foldl_cons, List.foldl_nil, history_concat, Keymap.ofHistory_concat]
    generalize bindings.foldl registerBinding script = registered at identity keymap ⊢
    refine ⟨identity, ?_⟩
    have named := Keymap.effectiveName_ofHistory script.identity (history script.access bindings) ⟨entry.request, none⟩
    rw [length_history] at named
    unfold registerBinding ScriptState.register
    dsimp only at named ⊢
    rw [keymap, named]
    unfold ScriptState.access
    rw [identity]
    rfl

/-- Each name among those of the entries has the callback that logs it, and no other name has one. -/
theorem callback?_history (identity : ScriptId) (access : HostAccess) (bindings : List ManifestBinding) (name : String) :
    (Keymap.ofHistory identity (history access bindings)).callback? name =
      if name ∈ bindings.mapIdx (fun index entry => entry.nameAt index) then some (firedCallback access name)
      else none := by
  induction bindings using List.reverseRecOn with
  | nil => rfl
  | append_singleton bindings entry ih =>
    rw [history_concat, Keymap.ofHistory_concat, Keymap.callback?_register, Keymap.effectiveName_ofHistory, ih,
      List.mapIdx_concat, length_history]
    by_cases last : name = entry.nameAt bindings.length
    · have filed : name = Registration.nameAt
          ⟨entry.request, some (firedCallback access (entry.nameAt bindings.length))⟩ bindings.length := last
      rw [if_pos filed, Option.some_or, if_pos (by simp [last]), ← last]
    · have other : ¬ name = Registration.nameAt
          ⟨entry.request, some (firedCallback access (entry.nameAt bindings.length))⟩ bindings.length := last
      rw [if_neg other]
      simp only [List.mem_append, List.mem_singleton, last, or_false]

/-- Observations touch neither identity nor bindings, also when one of them is refused. -/
theorem registerObservations_keeps (script : ScriptState) (entries : List ManifestWatch) :
    (registerObservations script entries).1.identity = script.identity ∧
    (registerObservations script entries).1.keymap = script.keymap := by
  induction entries generalizing script with
  | nil => exact ⟨rfl, rfl⟩
  | cons entry rest ih =>
    unfold registerObservations
    cases PropertyFormat.ofName? entry.format with
    | none => exact ⟨rfl, rfl⟩
    | some format => exact ih (script.observe entry.name format entry.replyToken)

/-- A script that could register a manifest logs the firing of the names in it. -/
theorem logsFirings_of_register {manifest : Manifest} {identity : ScriptId} {script : ScriptState}
    (registers : manifest.register (.fresh identity) = (script, .ok ())) :
    script.identity = identity ∧ script.LogsFirings manifest.names := by
  obtain ⟨own, keymap⟩ := registerObservations_keeps (.fresh identity) manifest.observations
  unfold register at registers
  split at registers
  · rename_i observing observed
    cases registers
    rw [observed] at own keymap
    have empty : observing.keymap = { identity := observing.identity } := by
      rw [keymap, own]
      rfl
    obtain ⟨kept, filed⟩ := foldl_registerBinding observing empty manifest.bindings
    refine ⟨kept.trans own, ?_⟩
    intro name
    rw [filed, callback?_history]
    unfold names ScriptState.access
    rw [kept]
    split <;> rfl
  · cases registers

end Manifest

theorem EventAnswer.isFailed_of_quiet {answer : EventAnswer} (quiet : answer.callback? = none) :
    answer.isFailed = false := by
  cases answer with
  | failed name => cases quiet
  | ignored | malformed | foreign | notReleased | noCallback | invoked => rfl

namespace ScriptState
variable {script : ScriptState} {names : List String}

theorem LogsFirings.of_sameRegistrations {after : ScriptState} (logs : script.LogsFirings names)
    (same : SameRegistrations script after) : after.LogsFirings names := by
  intro name
  rw [same.callbacks name, logs name]
  unfold access
  rw [same.identity]

/-- A name that fires is routed to a callback, and this one logs that it fired. -/
theorem LogsFirings.exists_callback (logs : script.LogsFirings names) {event : Event} {name : String}
    (fired : firedName? script.identity names event = some name) :
    ∃ callback, script.route event = .run name callback ∧
      callback.body = (Manifest.firedCallback script.access name).body := by
  unfold firedName? at fired
  obtain ⟨key, released, chosen⟩ := Option.bind_eq_some_iff.mp fired
  split at chosen
  · rename_i addressed
    obtain ⟨owner, known⟩ := addressed
    cases chosen
    have filed := logs key.name
    rw [if_pos known] at filed
    obtain ⟨callback, found, body⟩ := Option.map_eq_some_iff.mp filed
    refine ⟨callback, route_of_own ?_ found, body⟩
    rw [released, ← owner]
  · cases chosen

theorem LogsFirings.exists_settled (logs : script.LogsFirings names) {event : Event}
    (quiet : firedName? script.identity names event = none) : ∃ answer, script.route event = .settled answer := by
  cases routed : script.route event with
  | settled answer => exact ⟨answer, rfl⟩
  | run name callback =>
    obtain ⟨client, decoded, filed⟩ := route_eq_run_iff.mp routed
    have body := logs name
    rw [filed] at body
    have released := Event.released?_eq_some_iff.mpr ⟨client, decoded⟩
    unfold firedName? at quiet
    rw [released, Option.bind_some] at quiet
    by_cases known : name ∈ names
    · rw [if_pos ⟨rfl, known⟩] at quiet
      cases quiet
    · rw [if_neg known] at body
      cases body

/-- What the callback of a name does: it logs that it fired, and nothing can fail. -/
theorem firedCallback_body (access : HostAccess) (name : String) (runs : Nat) :
    (Manifest.firedCallback access name).body runs =
      .call (.log .info (firedText access.identity name)) fun _ => pure (.ok ()) := by
  have text : "fired " ++ name ≠ "" := by
    simp [← String.toList_inj]
  unfold Manifest.firedCallback
  dsimp only
  rw [HostAccess.log_eq_ask _ _ text]
  rfl

/-- Such a script answers an event with the receipt and, when the event runs a callback, the log entry that it fired. -/
theorem LogsFirings.answer (logs : script.LogsFirings names) (event : Event) (host : Host) (state : host.State) :
    ((script.answer event).run host state).calls =
      script.receivedLog event ::
        (firedName? script.identity names event).toList.map (fun name => .log .info (firedText script.identity name)) ∧
    ((script.answer event).run host state).value.1.callback? = firedName? script.identity names event ∧
    ((script.answer event).run host state).value.1.isFailed = false := by
  cases fired : firedName? script.identity names event with
  | some name =>
    obtain ⟨callback, routed, body⟩ := logs.exists_callback fired
    have invoked : callback.invoke = .call (.log .info (firedText script.identity name)) fun _ => pure (.ok ()) := by
      unfold Callback.invoke
      rw [body, firedCallback_body]
      rfl
    obtain ⟨value, calls⟩ := fires_of_route routed host state
    rw [invoked] at value calls
    rw [value, calls]
    exact ⟨rfl, rfl, rfl⟩
  | none =>
    obtain ⟨answer, routed⟩ := logs.exists_settled fired
    obtain ⟨value, calls⟩ := settles_of_route routed host state
    have quiet := callback?_of_settled routed
    rw [value, calls]
    exact ⟨rfl, quiet, EventAnswer.isFailed_of_quiet quiet⟩

end ScriptState
end ScriptBridge
