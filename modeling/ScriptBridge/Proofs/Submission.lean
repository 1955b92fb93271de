import ScriptBridge.Proofs.Keymap.SectionOrder
import ScriptBridge.Proofs.ScriptSets

/-!
# Bringing registrations to the host

A submission tells the host what a script has registered. It logs that it begins, asks for client messages if that is
wanted and anything is bound, and defines the sections, each put before others as soon as it is defined. The host's answer
to the request decides one log entry and nothing else: a refusal is reported, and the sections follow all the same. The
script is only read, so a submission can be repeated, and on a host that answers alike it makes the same calls again.
-/
namespace ScriptBridge
namespace ScriptState

/-- The log entry with which a submission begins. -/
def submissionLog (script : ScriptState) : HostRequest := .log .debug ("(" ++ script.identity.name ++ ") " ++ "flushing")

/-- What the host answers to the request for client messages behind that log entry. -/
def messagesReply (script : ScriptState) (host : Host) (state : host.State) : Except HostError Unit :=
  (host.answer (host.answer state script.submissionLog).2 (.requestEvent 16 true)).1

/-- The log entry about the host's answer to the request. -/
def messagesReport (script : ScriptState) : Except HostError Unit → HostRequest
  | .ok () => .log .debug ("(" ++ script.identity.name ++ ") " ++ "enabled client-message")
  | .error error =>
    .log .error ("(" ++ script.identity.name ++ ") " ++ ("failed to enable client-message: " ++ error.message))

theorem hasBindings_iff (script : ScriptState) : script.hasBindings = true ↔ script.keymap.bindings ≠ [] := by
  rw [hasBindings, Keymap.hasBindings, Bool.not_eq_true', ← Bool.not_eq_true, Keymap.isEmpty, List.isEmpty_iff]
  rfl

/-- With anything bound, the request is made and its answer reported, whatever it is. -/
theorem requestMessages_eq (script : ScriptState) :
    script.requestMessages =
      if script.keymap.bindings ≠ [] then
        .call (.requestEvent 16 true) fun reply => .call (script.messagesReport reply) fun _ => pure reply.isOk
      else pure false := by
  by_cases bound : script.keymap.bindings ≠ []
  · rw [if_pos bound, requestMessages, if_pos (script.hasBindings_iff.mpr bound)]
    refine congrArg (Program.call (.requestEvent 16 true)) (funext fun reply => ?_)
    cases reply with
    | ok done => rfl
    | error error =>
      have reported : "failed to enable client-message: " ++ error.message ≠ "" := by
        simp [← String.toList_inj]
      change (script.access.log .error _ >>= fun _ => pure false) = _
      rw [HostAccess.log_eq_ask _ _ reported]
      rfl
  · rw [if_neg bound, requestMessages, if_neg (mt script.hasBindings_iff.mp bound)]

/-- What is logged first tells whether there are bindings; the sections are defined at last. -/
theorem submit_eq (script : ScriptState) (enable : Bool) :
    script.submit enable = .call script.submissionLog fun _ =>
      if enable = true then script.requestMessages >>= fun _ => script.defineSections else script.defineSections := by
  rw [submit, script.access.log_eq_ask .debug (by decide)]
  refine congrArg (Program.call script.submissionLog) (funext fun _ => ?_)
  cases enable <;> rfl

/-- The calls of a submission, when the host answers so to the request for client messages. -/
def submissionCalls (script : ScriptState) (enable : Bool) (reply : Except HostError Unit) : List HostRequest :=
  script.submissionLog ::
    ((if enable = true ∧ script.keymap.bindings ≠ [] then [.requestEvent 16 true, script.messagesReport reply] else []) ++
      (script.keymap.compile.builtin.toList ++ script.keymap.compile.regular.toList).flatMap fun s =>
        [.defineSection s, .enableSection s.name { onTop := true }])

/-- Of the host's answers only the one to the request for client messages shows in the calls, in the entry about it. -/
theorem submit_run (script : ScriptState) (enable : Bool) (host : Host) (state : host.State) :
    ((script.submit enable).run host state).value = script.keymap.compile ∧
    ((script.submit enable).run host state).calls =
      script.submissionCalls enable (script.messagesReply host state) := by
  have built : ∀ later, (script.defineSections.run host later).value = script.keymap.compile := fun later => by
    simp only [defineSections, Program.run_bind, Program.run_pure]
  have handed : ∀ later, (script.defineSections.run host later).calls =
      (script.keymap.compile.builtin.toList ++ script.keymap.compile.regular.toList).flatMap fun s =>
        [.defineSection s, .enableSection s.name { onTop := true }] := script.calls_defineSections host
  have asked : ∀ later, (script.requestMessages.run host later).calls =
      if script.keymap.bindings ≠ [] then
        [.requestEvent 16 true, script.messagesReport (host.answer later (.requestEvent 16 true)).1]
      else [] := fun later => by
    rw [requestMessages_eq]
    split <;> rfl
  rw [submit_eq, submissionCalls]
  cases enable with
  | false => simp only [Bool.false_eq_true, ↓reduceIte, false_and, List.nil_append, Program.run, built, handed, and_self]
  | true => simp only [↓reduceIte, true_and, Program.run, Program.run_bind, built, handed, asked, messagesReply]

/-- What a submission does on a host, whatever the host answers. -/
structure Submits (script : ScriptState) (enable : Bool) (host : Host) (state : host.State) : Prop where
  /-- It gives the compiled sections. -/
  sections : ((script.submit enable).run host state).value = script.keymap.compile
  /-- It logs that it begins; requests client messages exactly when that is wanted and anything is bound, and logs the
  answer; and defines the sections, each followed by the call that puts it before others and does nothing else. -/
  calls : ((script.submit enable).run host state).calls = script.submissionCalls enable (script.messagesReply host state)
  /-- Each section is defined and put before others, also when the request was refused. -/
  defined : ∀ s ∈ script.keymap.compile.sections,
    [.defineSection s, .enableSection s.name { onTop := true }] <:+: ((script.submit enable).run host state).calls
  /-- Another submission, on any host in any state, that is answered alike if it has anything to ask for gives the same
  sections and makes the same calls. -/
  repeats : ∀ (other : Host) (later : other.State),
    (enable = true → script.keymap.bindings ≠ [] → script.messagesReply other later = script.messagesReply host state) →
    ((script.submit enable).run other later).value = ((script.submit enable).run host state).value ∧
    ((script.submit enable).run other later).calls = ((script.submit enable).run host state).calls
  /-- Where a script submits itself, at the end of its loading, it is kept as its own loading has left it. -/
  kept : ∀ (settings : ScriptingSettings) (identity : ScriptId) (onLoad : OnLoad) (begun : host.State),
    let subscribed := (ScriptSet.subscribe settings (.fresh identity)).run host begun
    ((onLoad (.fresh identity)).run host subscribed.state).value = .ok script →
    ((ScriptSet.start settings identity onLoad).run host begun).value = .ok script

/-- In every state of a script and against every host, a submission follows this protocol, also when the host refuses to
deliver client messages. -/
theorem submission_protocol (script : ScriptState) (enable : Bool) (host : Host) (state : host.State) :
    script.Submits enable host state := by
  obtain ⟨sections, calls⟩ := script.submit_run enable host state
  refine ⟨sections, calls, ?_, ?_, ?_⟩
  · intro s present
    rw [calls, submissionCalls, List.flatMap_def]
    apply List.infix_cons
    apply List.infix_append_of_infix_right
    exact List.infix_of_mem_flatten (List.mem_map_of_mem present)
  · intro other later alike
    obtain ⟨otherSections, otherCalls⟩ := script.submit_run enable other later
    refine ⟨otherSections.trans sections.symm, ?_⟩
    rw [otherCalls, calls, submissionCalls, submissionCalls]
    by_cases asks : enable = true ∧ script.keymap.bindings ≠ []
    · rw [alike asks.1 asks.2]
    · rw [if_neg asks, if_neg asks]
  · intro settings identity onLoad begun subscribed registered
    simp only [ScriptSet.start, Program.run_bind]
    rw [show ((onLoad (.fresh identity)).run host subscribed.state).value = .ok script from registered]
    simp only [Program.run_bind, Program.run_pure]

end ScriptState
end ScriptBridge
