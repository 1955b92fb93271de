import ScriptBridge.Host.Simulated
import ScriptBridge.Proofs.Containment
import ScriptBridge.Proofs.SectionLines
import ScriptBridge.Proofs.Keymap.Records

/-!
# Which callback a name runs

A later registration takes the place of an earlier record with its name, but of the earlier callback only if it was
given one itself. So a key runs the last callback that was given to its name, and that is the latest registration's own
one exactly when this registration was given a callback or none of the name's registrations was.
-/
namespace ScriptBridge
open Registration

namespace History

/-- The callback of the latest registration under a name, if that one was given any. -/
def latestCallback? (history : History) (name : String) : Option Callback :=
  (history.under name).getLast?.bind Registration.callback

/-- The last callback that was given to a name, by whichever registration. -/
def lastGiven? (history : History) (name : String) : Option Callback :=
  ((history.under name).filterMap Registration.callback).getLast?

/-- The latest registration under a name was given a callback, or none under that name was. -/
def LatestDecides (history : History) (name : String) : Prop :=
  (∃ latest callback, (history.under name).getLast? = some latest ∧ latest.callback = some callback) ∨
  ∀ registration ∈ history.under name, registration.callback = none

/-- A registration without a callback leaves the earlier one under its name. -/
theorem lastGiven?_concat (history : History) (registration : Registration) (name : String) :
    lastGiven? (history ++ [registration]) name =
      if name = registration.nameAt history.length then registration.callback.or (history.lastGiven? name)
      else history.lastGiven? name := by
  rw [lastGiven?, under_concat, List.filterMap_append]
  by_cases named : name = registration.nameAt history.length
  · rw [if_pos named, if_pos named.symm]
    cases given : registration.callback with
    | none => simp [given, lastGiven?]
    | some callback => simp [given]
  · rw [if_neg named, if_neg (Ne.symm named), List.filterMap_nil, List.append_nil, lastGiven?]

theorem lastGiven?_eq_none_iff {history : History} {name : String} :
    history.lastGiven? name = none ↔ ∀ registration ∈ history.under name, registration.callback = none := by
  rw [lastGiven?, List.getLast?_eq_none_iff, List.filterMap_eq_nil_iff]

theorem lastGiven?_of_latest {history : History} {name : String} {callback : Callback}
    (given : history.latestCallback? name = some callback) : history.lastGiven? name = some callback := by
  obtain ⟨latest, last, own⟩ := Option.bind_eq_some_iff.mp given
  obtain ⟨earlier, whole⟩ := List.getLast?_eq_some_iff.mp last
  rw [lastGiven?, whole, List.filterMap_append, List.filterMap_cons_some own, List.filterMap_nil, List.getLast?_concat]

/-- The last callback given is the latest registration's own one exactly when this registration decides. -/
theorem lastGiven?_eq_latestCallback?_iff {history : History} {name : String} :
    history.lastGiven? name = history.latestCallback? name ↔ history.LatestDecides name := by
  constructor
  · intro same
    cases own : history.latestCallback? name with
    | some callback =>
      obtain ⟨latest, last, given⟩ := Option.bind_eq_some_iff.mp own
      exact .inl ⟨latest, callback, last, given⟩
    | none => exact .inr (lastGiven?_eq_none_iff.mp (same.trans own))
  · rintro (⟨latest, callback, last, given⟩ | bare)
    · have own : history.latestCallback? name = some callback := Option.bind_eq_some_iff.mpr ⟨latest, last, given⟩
      rw [own, lastGiven?_of_latest own]
    · have nothing := lastGiven?_eq_none_iff.mpr bare
      cases own : history.latestCallback? name with
      | some callback =>
        have given := lastGiven?_of_latest own
        rw [nothing] at given
        cases given
      | none => exact nothing

end History

/-- A keymap has under each name the last callback that was given to it. -/
theorem Keymap.callback?_ofHistory (identity : ScriptId) (history : History) (name : String) :
    (ofHistory identity history).callback? name = history.lastGiven? name := by
  induction history using List.reverseRecOn with
  | nil => rfl
  | append_singleton history registration ih =>
    -- a registration without a callback leaves in place what earlier ones gave
    rw [ofHistory_concat, callback?_register, effectiveName_ofHistory, ih, History.lastGiven?_concat]

theorem EventAnswer.decision_of_callback? {answer : EventAnswer} {name : String}
    (ran : answer.callback? = some name) : answer.decision = .invoked name := by
  cases answer with
  | invoked other | failed other =>
    cases ran
    rfl
  | ignored | malformed | foreign | notReleased | noCallback => cases ran

namespace ScriptState
open QualifiedName

def ofHistory (identity : ScriptId) (history : History) : ScriptState :=
  history.foldl (fun script registration => script.register registration.request registration.callback)
    (fresh identity)

/-- Registrations change the keymap of a fresh script and nothing else. -/
theorem ofHistory_eq (identity : ScriptId) (history : History) :
    ofHistory identity history = { fresh identity with keymap := Keymap.ofHistory identity history } := by
  induction history using List.reverseRecOn with
  | nil => rfl
  | append_singleton history registration ih =>
    rw [Keymap.ofHistory_concat, ofHistory, List.foldl_append, ← ofHistory, ih]
    rfl

/-- The event is answered by this callback under the name or, without one, by the answer that the name has none. -/
def AnswersBy (script : ScriptState) (event : Event) (name : String) : Option Callback → Prop
  | some callback => script.Fires event name callback
  | none => script.Settles event (.noCallback name)

/-- The release of a key of the script's own is answered by what is filed under its name. -/
theorem answersBy_of_release {script : ScriptState} {event : Event} {name : String}
    (addressable : script.identity.IsAddressable) (released : Releases event (encode ⟨script.identity, name⟩)) :
    script.AnswersBy event name (script.keymap.callback? name) := by
  cases filed : script.keymap.callback? name with
  | some callback => exact fires_of_release addressable released filed
  | none =>
    obtain ⟨client, decoded⟩ := decode_of_release addressable released
    exact settles_of_route (route_of_noCallback client decoded filed)

theorem Fires.not_settles {script : ScriptState} {event : Event} {name : String} {callback : Callback}
    (fires : script.Fires event name callback) : ¬ script.Settles event (.noCallback name) := by
  intro settles
  have ran := congrArg Prod.fst (fires SimulatedHost.host ({} : SimulatedHost)).1
  have settled := congrArg Prod.fst (settles SimulatedHost.host ({} : SimulatedHost)).1
  have named := congrArg EventAnswer.callback? (settled.symm.trans ran)
  rw [EventAnswer.callback?_ofOutcome] at named
  cases named

/-- A name without a callback never comes up in an answer, whatever events follow. -/
theorem callback?_ne_of_bare {script : ScriptState} {name : String} (bare : script.keymap.callback? name = none)
    (events : List Event) (host : Host) (state : host.State) :
    ∀ answer ∈ ((script.answerEach events).run host state).value.1, answer.callback? ≠ some name := by
  intro answer given ran
  obtain ⟨index, inside, rfl⟩ := List.mem_iff_getElem.mp given
  have asked : index < events.length := by rwa [length_answerEach] at inside
  have decided := script.decision_answerEach events host state (List.getElem?_eq_getElem asked)
    (List.getElem?_eq_getElem inside)
  rw [EventAnswer.decision_of_callback? ran] at decided
  cases routed : script.route events[index] with
  | settled quiet =>
    rw [routed, Routing.decision] at decided
    have silent := callback?_of_settled routed
    rw [← decided] at silent
    cases silent
  | run other callback =>
    rw [routed, Routing.decision, EventAnswer.invoked.injEq] at decided
    have filed := (route_eq_run_iff.mp routed).2.2
    rw [← decided, bare] at filed
    cases filed

/-- For a release under one of its names a script runs the last callback that was given to the name. This is what the
latest registration asks for exactly when it decides: when it was given a callback, or no registration of the name was.
Its record is found under the name in any case, and a name that was never given a callback never runs one. -/
theorem latest_registration_answers_iff (identity : ScriptId) (history : History) (name : String) :
    let script := ofHistory identity history
    script.keymap.get? name = ((history.records identity).filter (·.name = name)).getLast? ∧
    (identity.IsAddressable → ∀ event, Releases event (encode ⟨identity, name⟩) →
      script.AnswersBy event name (history.lastGiven? name) ∧
      (script.AnswersBy event name (history.latestCallback? name) ↔ history.LatestDecides name)) ∧
    ((∀ registration ∈ history.under name, registration.callback = none) →
      ∀ (events : List Event) (host : Host) (state : host.State),
        ∀ answer ∈ ((script.answerEach events).run host state).value.1, answer.callback? ≠ some name) := by
  intro script
  have keymap : script.keymap = Keymap.ofHistory identity history := congrArg ScriptState.keymap (ofHistory_eq _ _)
  have own : script.identity = identity := congrArg ScriptState.identity (ofHistory_eq _ _)
  have filed : script.keymap.callback? name = history.lastGiven? name := by
    rw [keymap, Keymap.callback?_ofHistory]
  refine ⟨?_, ?_, ?_⟩
  · rw [keymap, Keymap.get?_ofHistory]
  · intro addressable event released
    rw [← own] at addressable released
    have actual : script.AnswersBy event name (history.lastGiven? name) :=
      filed ▸ answersBy_of_release addressable released
    refine ⟨actual, ?_⟩
    rw [← History.lastGiven?_eq_latestCallback?_iff]
    constructor
    · intro promised
      cases asked : history.latestCallback? name with
      | some callback => exact History.lastGiven?_of_latest asked
      | none =>
        rw [asked] at promised
        cases given : history.lastGiven? name with
        | none => rfl
        | some callback =>
          rw [given] at actual
          exact absurd promised (Fires.not_settles actual)
    · intro same
      rwa [← same]
  · intro bare
    exact callback?_ne_of_bare (filed.trans (History.lastGiven?_eq_none_iff.mpr bare))

/-- The second registration of a name is the one that counts when it is given a callback. -/
theorem latest_registration_answers_renewed :
    let first : Callback := { body := fun _ => pure (.ok ()) }
    let second : Callback := { body := fun _ => pure (.error (.abort none)) }
    let history : History := [⟨{ key := some "a", name := some "n" }, some first⟩,
      ⟨{ key := some "b", name := some "n" }, some second⟩]
    (ofHistory ⟨"my_demo"⟩ history).Fires (.ofKey ⟨⟨"my_demo"⟩, "n"⟩ ("u" ++ "-")) "n" second := by
  intro first second history
  have addressable : ScriptId.IsAddressable ⟨"my_demo"⟩ := by decide +kernel
  have decides : history.LatestDecides "n" :=
    .inl ⟨⟨{ key := some "b", name := some "n" }, some second⟩, second, rfl, rfl⟩
  have answered := (latest_registration_answers_iff ⟨"my_demo"⟩ history "n").2.1 addressable _
    (releases_ofKey ⟨⟨"my_demo"⟩, "n"⟩ "-")
  exact answered.2.mpr decides

/-- The latest registration of a name is given no callback, and the name's key still runs the earlier one. -/
theorem bare_registration_runs_earlier :
    let callback : Callback := { body := fun _ => pure (.ok ()) }
    let history : History := [⟨{ key := some "a", name := some "n" }, some callback⟩,
      ⟨{ key := some "b", name := some "n" }, none⟩]
    let script := ofHistory ⟨"demo"⟩ history
    let event := Event.ofKey ⟨⟨"demo"⟩, "n"⟩ ("u" ++ "-")
    (history.under "n").getLast?.map Registration.callback = some none ∧
    script.Fires event "n" callback ∧ ¬ script.Settles event (.noCallback "n") := by
  intro callback history script event
  have addressable : ScriptId.IsAddressable ⟨"demo"⟩ := by decide +kernel
  have filed : script.keymap.callback? "n" = some callback := rfl
  have fires : script.Fires event "n" callback :=
    fires_of_release addressable (releases_ofKey ⟨⟨"demo"⟩, "n"⟩ "-") filed
  exact ⟨rfl, fires, fires.not_settles⟩

end ScriptState
end ScriptBridge
