import ScriptBridge.Host.Request

/-!
# Programs against a host

A program makes host calls one after another and goes on by the answers. A host is any state machine that answers
calls; running a program against one gives the program's result, the calls it made in order, and the host's last state.
-/
namespace ScriptBridge

/-- A computation that talks to the host. -/
inductive Program (α : Type) where
  | done (value : α)
  | call (request : HostRequest) (next : request.Reply → Program α)

namespace Program

protected def bind {α β : Type} (program : Program α) (next : α → Program β) : Program β :=
  match program with
  | .done value => next value
  | .call request continuation => .call request fun reply => (continuation reply).bind next

instance : Monad Program where
  pure := .done
  bind := Program.bind

def ask (request : HostRequest) : Program request.Reply := .call request .done

@[simp] theorem pure_bind {α β : Type} (value : α) (next : α → Program β) :
    (pure value >>= next : Program β) = next value := rfl

@[simp] theorem call_bind {α β : Type} (request : HostRequest) (continuation : request.Reply → Program α)
    (next : α → Program β) :
    (Program.call request continuation >>= next : Program β) =
      .call request fun reply => continuation reply >>= next := rfl

end Program

/-- A host: a state, and an answer to every call in every state. -/
structure Host where
  State : Type
  answer : State → (request : HostRequest) → request.Reply × State

structure Run (σ α : Type) where
  value : α
  /-- The calls that were made, in order. -/
  calls : List HostRequest
  state : σ

def Program.run {α : Type} (host : Host) : Program α → host.State → Run host.State α
  | .done value, state => ⟨value, [], state⟩
  | .call request next, state =>
    let (reply, after) := host.answer state request
    let rest := (next reply).run host after
    ⟨rest.value, request :: rest.calls, rest.state⟩

@[simp] theorem Program.run_pure {α : Type} (host : Host) (value : α) (state : host.State) :
    (pure value : Program α).run host state = ⟨value, [], state⟩ := rfl

/-- A run of two programs in sequence is the run of the first followed by the run of the second. -/
theorem Program.run_bind {α β : Type} (host : Host) (program : Program α) (next : α → Program β)
    (state : host.State) :
    (program >>= next).run host state =
      let first := program.run host state
      let second := (next first.value).run host first.state
      ⟨second.value, first.calls ++ second.calls, second.state⟩ := by
  induction program generalizing state with
  | done value => rfl
  | call request continuation ih =>
    simp only [Program.call_bind, Program.run, ih, List.cons_append]

/-- A sequence gives what its second part gives on the host as its first part leaves it. -/
theorem Program.value_run_bind {α β : Type} (host : Host) (program : Program α) (next : α → Program β)
    (state : host.State) :
    ((program >>= next).run host state).value =
      ((next (program.run host state).value).run host (program.run host state).state).value := by
  rw [run_bind]

section Call

variable {α : Type} {host : Host} {state after : host.State} {request : HostRequest} {reply : request.Reply}
  (answered : host.answer state request = (reply, after)) (next : request.Reply → Program α)
include answered

theorem Program.calls_run_call :
    ((Program.call request next).run host state).calls = request :: ((next reply).run host after).calls := by
  simp only [run, answered]

theorem Program.state_run_call :
    ((Program.call request next).run host state).state = ((next reply).run host after).state := by
  simp only [run, answered]

end Call

end ScriptBridge
