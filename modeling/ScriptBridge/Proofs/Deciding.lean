import ScriptBridge.Proofs.Releases

/-!
# The decision about one event

Six things can become of an event, and the first condition that applies decides: it is no client message, its payload
cannot be decoded, it is addressed to another script, it does not report a release, the script has no callback under the
name, or the callback runs. Each has a condition on the event and the registrations of its own, so every answer arises under
exactly one of them; and the host hears of the receipt, of what the callback asks for, and of a failure, in that order.
-/
namespace ScriptBridge
open QualifiedName

theorem Event.isKind_eq_true_iff {event : Event} {kind : EventKind} : event.isKind kind = true ↔ event.id = kind.id :=
  decide_eq_true_iff

theorem Event.isKind_eq_false_iff {event : Event} {kind : EventKind} : event.isKind kind = false ↔ event.id ≠ kind.id :=
  decide_eq_false_iff_not

/-- The state in the payload is a text that begins with a lower case u. -/
def Event.ReportsRelease (event : Event) : Prop := ∃ rest, event.data.get? 2 = some (.string ("u" ++ rest))

theorem Event.reportsRelease_iff {event : Event} {message : KeyMessage}
    (decoded : KeyMessage.decode event.data = .ok message) : event.ReportsRelease ↔ message.released = true := by
  obtain ⟨items, list, _, _, pressed⟩ := KeyMessage.decode_eq_ok_iff.mp decoded
  rw [pressed, KeyMessage.any_isRelease_iff, ReportsRelease, Node.get?, list]
  rfl

namespace ScriptState

/-- The event is a client message that is addressed to one of the script's own names. -/
def IsAddressedAt (script : ScriptState) (event : Event) (name : String) : Prop :=
  event.isKind .clientMessage = true ∧
  ∃ released, KeyMessage.decode event.data = .ok ⟨⟨script.identity, name⟩, released⟩

/-- Each thing that can become of an event, with the condition under which it does. -/
inductive Decides (script : ScriptState) (event : Event) : Routing → Prop where
  | ignored (other : event.isKind .clientMessage = false) : Decides script event (.settled .ignored)
  | malformed (client : event.isKind .clientMessage = true) {error : DecodeError}
      (undecoded : KeyMessage.decode event.data = .error error) : Decides script event (.settled .malformed)
  | foreign (client : event.isKind .clientMessage = true) {key : QualifiedName} {released : Bool}
      (decoded : KeyMessage.decode event.data = .ok ⟨key, released⟩) (other : key.owner ≠ script.identity) :
      Decides script event (.settled .foreign)
  | notReleased {name : String} (addressed : script.IsAddressedAt event name) (held : ¬ event.ReportsRelease) :
      Decides script event (.settled .notReleased)
  | noCallback {name : String} (addressed : script.IsAddressedAt event name) (released : event.ReportsRelease)
      (bare : script.keymap.callback? name = none) : Decides script event (.settled (.noCallback name))
  | run {name : String} {callback : Callback} (addressed : script.IsAddressedAt event name)
      (released : event.ReportsRelease) (filed : script.keymap.callback? name = some callback) :
      Decides script event (.run name callback)

/-- Routing decides every event, and by exactly these conditions. -/
theorem decides_route (script : ScriptState) (event : Event) : Decides script event (script.route event) := by
  rw [route]
  by_cases client : event.isKind .clientMessage = true
  · rw [client]
    cases decoded : KeyMessage.decode event.data with
    | error error => exact .malformed client decoded
    | ok message =>
      obtain ⟨⟨owner, name⟩, released⟩ := message
      have reports := Event.reportsRelease_iff decoded
      by_cases own : owner = script.identity
      · subst own
        have addressed : script.IsAddressedAt event name := ⟨client, released, decoded⟩
        cases released with
        | false =>
          simp only [isOwnedBy, decide_true, Bool.not_true, Bool.not_false, Bool.false_eq_true, ↓reduceIte]
          exact .notReleased addressed (by simp [reports])
        | true =>
          simp only [isOwnedBy, decide_true, Bool.not_true, Bool.false_eq_true, ↓reduceIte]
          cases filed : script.keymap.callback? name with
          | none => exact .noCallback addressed (by simp [reports]) filed
          | some callback => exact .run addressed (by simp [reports]) filed
      · simp only [isOwnedBy, own, decide_false, Bool.not_false, Bool.not_true, Bool.false_eq_true, ↓reduceIte]
        exact .foreign client decoded own
  · simp only [client, Bool.not_false, ↓reduceIte]
    exact .ignored (Bool.not_eq_true _ ▸ client)

section Conditions
variable {script : ScriptState} {event : Event}

/-- A release that is addressed to the script is read as one of the key under this name. -/
theorem IsAddressedAt.decode_of_release {name : String} (addressed : script.IsAddressedAt event name)
    (released : event.ReportsRelease) : KeyMessage.decode event.data = .ok ⟨⟨script.identity, name⟩, true⟩ := by
  obtain ⟨_, pressed, decoded⟩ := addressed
  have up : pressed = true := (Event.reportsRelease_iff decoded).mp released
  rw [decoded, up]

/-- The conditions leave no choice: what they decide is what routing gives, and nothing else. -/
theorem decides_iff {routing : Routing} : Decides script event routing ↔ script.route event = routing := by
  constructor
  · intro decides
    cases decides with
    | ignored other => simp [route, other]
    | malformed client undecoded => simp [route, client, undecoded]
    | foreign client decoded other => exact route_of_foreign client decoded other
    | notReleased addressed held =>
      obtain ⟨client, pressed, decoded⟩ := addressed
      have up : pressed = false := by simpa [Event.reportsRelease_iff decoded] using held
      simp [route, client, decoded, up, isOwnedBy]
    | noCallback addressed released bare =>
      exact route_of_noCallback addressed.1 (addressed.decode_of_release released) bare
    | run addressed released filed =>
      exact route_eq_run_iff.mpr ⟨addressed.1, addressed.decode_of_release released, filed⟩
  · rintro rfl
    exact decides_route script event

/-- The event makes the script run a callback: the one under a name of its own whose release is reported. -/
def Triggers (script : ScriptState) (event : Event) (name : String) (callback : Callback) : Prop :=
  script.IsAddressedAt event name ∧ event.ReportsRelease ∧ script.keymap.callback? name = some callback

/-- An event triggers a callback exactly when it is routed to it. -/
theorem triggers_iff {name : String} {callback : Callback} :
    script.Triggers event name callback ↔ script.route event = .run name callback := by
  rw [← decides_iff]
  constructor
  · rintro ⟨addressed, released, filed⟩
    exact .run addressed released filed
  · rintro (_ | _ | _ | _ | _ | ⟨addressed, released, filed⟩)
    exact ⟨addressed, released, filed⟩

variable (host : Host) (state : host.State)

/-- An answer that names no callback run is given exactly when routing settles on it. -/
theorem answer_eq_iff_settled {answer : EventAnswer} (quiet : answer.callback? = none) :
    ((script.answer event).run host state).value.1 = answer ↔ Decides script event (.settled answer) := by
  rw [decides_iff]
  cases routed : script.route event with
  | settled given =>
    rw [(settles_of_route routed host state).1]
    simp
  | run name callback =>
    rw [(fires_of_route routed host state).1]
    simp only [reduceCtorEq, iff_false]
    rintro rfl
    simp at quiet

/-- An answer that names a callback run is given exactly when the callback is triggered and ends so. -/
theorem answer_eq_iff_ran {name : String} {answer : EventAnswer} (named : answer.callback? = some name) :
    ((script.answer event).run host state).value.1 = answer ↔
      ∃ callback, script.Triggers event name callback ∧
        .ofOutcome name (callback.invoke.run host (host.answer state (script.receivedLog event)).2).value = answer := by
  simp only [triggers_iff]
  cases routed : script.route event with
  | settled given =>
    have quiet := callback?_of_settled routed
    rw [(settles_of_route routed host state).1]
    simp only [reduceCtorEq, false_and, exists_false, iff_false]
    rintro rfl
    rw [quiet] at named
    cases named
  | run ranName callback =>
    rw [(fires_of_route routed host state).1]
    constructor
    · rintro rfl
      rw [EventAnswer.callback?_ofOutcome, Option.some.injEq] at named
      subst named
      exact ⟨callback, rfl, rfl⟩
    · rintro ⟨_, same, given⟩
      cases same
      exact given

end Conditions

/-- What is decided about an event, and what the host hears of it. -/
structure Decided (script : ScriptState) (event : Event) (host : Host) (state : host.State) : Prop where
  ignored : ((script.answer event).run host state).value.1 = .ignored ↔ event.id ≠ EventKind.clientMessage.id
  malformed : ((script.answer event).run host state).value.1 = .malformed ↔
    event.id = EventKind.clientMessage.id ∧ ∃ error, KeyMessage.decode event.data = .error error
  foreign : ((script.answer event).run host state).value.1 = .foreign ↔
    event.id = EventKind.clientMessage.id ∧
      ∃ key released, KeyMessage.decode event.data = .ok ⟨key, released⟩ ∧ key.owner ≠ script.identity
  notReleased : ((script.answer event).run host state).value.1 = .notReleased ↔
    (∃ name, script.IsAddressedAt event name) ∧ ¬ event.ReportsRelease
  noCallback : ∀ name, ((script.answer event).run host state).value.1 = .noCallback name ↔
    script.IsAddressedAt event name ∧ event.ReportsRelease ∧ script.keymap.callback? name = none
  invoked : ∀ name, ((script.answer event).run host state).value.1 = .invoked name ↔
    ∃ callback, script.Triggers event name callback ∧
      (callback.invoke.run host (host.answer state (script.receivedLog event)).2).value = .ok ()
  failed : ∀ name, ((script.answer event).run host state).value.1 = .failed name ↔
    ∃ callback failure, script.Triggers event name callback ∧
      (callback.invoke.run host (host.answer state (script.receivedLog event)).2).value = .error failure
  /-- The log entry of the receipt shows the number of the event and the text of its payload. -/
  received : script.receivedLog event =
    .log .debug ("(" ++ script.identity.name ++ ") " ++
      ("received event: " ++ Numeral.ofInt event.id.toInt ++ ", " ++ event.data.text))
  /-- When no callback is triggered, the host hears of nothing but the receipt, and the script stays as it is. -/
  quiet : (∀ name callback, ¬ script.Triggers event name callback) →
    ((script.answer event).run host state).calls = [script.receivedLog event] ∧
    ((script.answer event).run host state).value.2 = script
  /-- When one is triggered, it runs once: its calls follow the receipt, and an entry about its failure follows them. -/
  runs : ∀ name callback, script.Triggers event name callback →
    let ran := callback.invoke.run host (host.answer state (script.receivedLog event)).2
    ((script.answer event).run host state).calls = script.receivedLog event :: (ran.calls ++
      match ran.value with
      | .ok () => []
      | .error (.error cause) => [.log .error ("(" ++ script.identity.name ++ ") " ++
          ("callback " ++ name ++ " failed: " ++ String.intercalate ": " (cause.contexts ++ [cause.cause])))]
      | .error (.abort message) => [.log .error ("(" ++ script.identity.name ++ ") " ++
          ("callback " ++ name ++ " failed: " ++ ("panicked: " ++ message.getD "unknown panic")))]) ∧
    ((script.answer event).run host state).value.2 = script.advance name callback

/-- In every state of a script, against every host and for every event, the first condition that applies decides the
answer, and the host hears of the receipt, of the callback that runs, and of its failure. -/
theorem event_decided (script : ScriptState) (event : Event) (host : Host) (state : host.State) :
    script.Decided event host state where
  ignored := by
    rw [answer_eq_iff_settled host state rfl, ← Event.isKind_eq_false_iff]
    constructor
    · rintro ⟨other⟩
      exact other
    · exact .ignored
  malformed := by
    rw [answer_eq_iff_settled host state rfl, ← Event.isKind_eq_true_iff]
    constructor
    · rintro (_ | ⟨client, undecoded⟩)
      exact ⟨client, _, undecoded⟩
    · rintro ⟨client, error, undecoded⟩
      exact .malformed client undecoded
  foreign := by
    rw [answer_eq_iff_settled host state rfl, ← Event.isKind_eq_true_iff]
    constructor
    · rintro (_ | _ | ⟨client, decoded, other⟩)
      exact ⟨client, _, _, decoded, other⟩
    · rintro ⟨client, key, released, decoded, other⟩
      exact .foreign client decoded other
  notReleased := by
    rw [answer_eq_iff_settled host state rfl]
    constructor
    · rintro (_ | _ | _ | ⟨addressed, held⟩)
      exact ⟨⟨_, addressed⟩, held⟩
    · rintro ⟨⟨name, addressed⟩, held⟩
      exact .notReleased addressed held
  noCallback := by
    intro name
    rw [answer_eq_iff_settled host state rfl]
    constructor
    · rintro (_ | _ | _ | _ | ⟨addressed, released, bare⟩)
      exact ⟨addressed, released, bare⟩
    · rintro ⟨addressed, released, bare⟩
      exact .noCallback addressed released bare
  invoked := by
    intro name
    rw [answer_eq_iff_ran host state rfl]
    refine exists_congr fun callback => and_congr_right fun _ => ?_
    cases (callback.invoke.run host (host.answer state (script.receivedLog event)).2).value <;>
      simp [EventAnswer.ofOutcome]
  failed := by
    intro name
    rw [answer_eq_iff_ran host state rfl]
    refine exists_congr fun callback => ?_
    rw [exists_and_left]
    refine and_congr_right fun _ => ?_
    cases (callback.invoke.run host (host.answer state (script.receivedLog event)).2).value <;>
      simp [EventAnswer.ofOutcome]
  received := rfl
  quiet := by
    intro none
    cases routed : script.route event with
    | settled answer =>
      obtain ⟨value, calls⟩ := settles_of_route routed host state
      exact ⟨calls, congrArg Prod.snd value⟩
    | run name callback => exact absurd (triggers_iff.mpr routed) (none name callback)
  runs := by
    intro name callback called ran
    obtain ⟨value, calls⟩ := fires_of_route (triggers_iff.mp called) host state
    refine ⟨calls.trans ?_, congrArg Prod.snd value⟩
    refine congrArg (fun report => script.receivedLog event :: (ran.calls ++ report)) ?_
    change script.outcomeReport name ran.value = _
    rcases ran.value with (cause | message) | done
    · rfl
    · rfl
    · rfl

end ScriptState
end ScriptBridge
