import ScriptBridge.Proofs.Answering

/-!
# States that a script can be in

A script starts fresh; then it registers bindings, observes properties and answers events in any order. Whatever it
does, its identity stays the one it was loaded with, and each record's input line is the one that its key, its name
and that identity give.
-/
namespace ScriptBridge
namespace ScriptState

/-- The states of a script with an identity. -/
inductive Reachable (identity : ScriptId) : ScriptState → Prop where
  | fresh : Reachable identity (fresh identity)
  | register {script : ScriptState} (before : Reachable identity script) (request : BindingRequest)
      (callback : Option Callback) : Reachable identity (script.register request callback)
  | observe {script : ScriptState} (before : Reachable identity script) (name : String) (format : PropertyFormat)
      (token : UInt64) : Reachable identity (script.observe name format token)
  | answer {script : ScriptState} (before : Reachable identity script) (event : Event) (host : Host)
      (state : host.State) : Reachable identity ((script.answer event).run host state).value.2

/-- The line that a record hands to the host: the one for its key and its qualified name, if it has a key. -/
def lineOf (identity : ScriptId) (binding : Binding) : Option String :=
  binding.key.map fun key => inputLine key ⟨identity, binding.name⟩

/-- What holds of every state of a script with an identity. -/
structure Coherent (identity : ScriptId) (script : ScriptState) : Prop where
  identity_eq : script.identity = identity
  keymap_identity : script.keymap.identity = identity
  observed_identity : script.observed.identity = identity
  input_eq : ∀ binding ∈ script.keymap.bindings, binding.input = lineOf identity binding

/-- Answering an event leaves the script as it is, or counts one more run of a callback that is filed. -/
theorem answer_state (script : ScriptState) (event : Event) (host : Host) (state : host.State) :
    ((script.answer event).run host state).value.2 = script ∨
    ∃ name callback, script.keymap.callback? name = some callback ∧
      ((script.answer event).run host state).value.2 = script.advance name callback := by
  cases routed : script.route event with
  | settled answer => exact .inl (congrArg Prod.snd (settles_of_route routed host state).1)
  | run name callback =>
    exact .inr ⟨name, callback, (route_eq_run_iff.mp routed).2.2,
      congrArg Prod.snd (fires_of_route routed host state).1⟩

theorem Coherent.fresh (identity : ScriptId) : Coherent identity (fresh identity) :=
  ⟨rfl, rfl, rfl, by simp [ScriptState.fresh, Keymap.bindings]⟩

theorem Coherent.add {identity : ScriptId} {script : ScriptState} (coherent : Coherent identity script)
    (request : BindingRequest) : Coherent identity { script with keymap := script.keymap.add request } := by
  refine ⟨coherent.identity_eq, coherent.keymap_identity, coherent.observed_identity, ?_⟩
  intro binding filed
  rcases List.mem_append.mp filed with kept | new
  · exact coherent.input_eq binding (List.mem_filter.mp kept).1
  · rw [List.mem_singleton.mp new]
    simp only [Keymap.recordOf, lineOf, coherent.keymap_identity]

theorem Coherent.register {identity : ScriptId} {script : ScriptState} (coherent : Coherent identity script)
    (request : BindingRequest) (callback : Option Callback) :
    Coherent identity (script.register request callback) := by
  have added := coherent.add request
  cases callback with
  | none => exact added
  | some callback =>
    exact ⟨added.identity_eq, added.keymap_identity, added.observed_identity, added.input_eq⟩

theorem Coherent.answer {identity : ScriptId} {script : ScriptState} (coherent : Coherent identity script)
    (event : Event) (host : Host) (state : host.State) :
    Coherent identity ((script.answer event).run host state).value.2 := by
  rcases script.answer_state event host state with same | ⟨name, callback, _, advanced⟩
  · rw [same]
    exact coherent
  · rw [advanced]
    exact ⟨coherent.identity_eq, coherent.keymap_identity, coherent.observed_identity, coherent.input_eq⟩

/-- Whatever a script has done, its records are coherent with its identity. -/
theorem Reachable.coherent {identity : ScriptId} {script : ScriptState} (reachable : script.Reachable identity) :
    Coherent identity script := by
  induction reachable with
  | fresh => exact .fresh identity
  | register _ request callback ih => exact ih.register request callback
  | observe _ name format token ih => exact ⟨ih.identity_eq, ih.keymap_identity, ih.observed_identity, ih.input_eq⟩
  | answer _ event host state ih => exact ih.answer event host state

end ScriptState
end ScriptBridge
