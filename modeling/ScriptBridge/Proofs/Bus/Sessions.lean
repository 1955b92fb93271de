import ScriptBridge.Proofs.Bus.Completion
import ScriptBridge.Proofs.Bus.Numbering

/-!
# A pump among others on the bus

A pump subscribes to a bus on which anything may have happened before. From then on it takes its turns between whatever
others do: they publish, subscribe and receive, come and go, and give up the bus in the end. What one turn of the pump
can come to is said once, in `Turned`, and rests on the place that the pump keeps on the bus, `Tracks`.
-/
namespace ScriptBridge

/-- How many publications the report tells of. -/
def PumpReport.total (report : PumpReport) : Nat := report.events + report.skipped

theorem PumpReport.count_eq (report : PumpReport) (answer : EventAnswer) :
    report.count answer =
      { report with
        events := report.events + 1
        invoked := report.invoked + [answer].countP EventAnswer.isInvoked
        failed := report.failed + [answer].countP EventAnswer.isFailed } := by
  cases answer <;> rfl

theorem PumpReport.total_count (report : PumpReport) (answer : EventAnswer) :
    (report.count answer).total = report.total + 1 := by
  rw [count_eq]
  exact Nat.add_right_comm _ _ _

/-- A pump on a bus, with a record of what was published since it subscribed and of what it handed to its script. -/
structure PumpSession where
  pump : Pump
  bus : Broadcast
  published : List (EventSource × Event) := []
  handled : List Envelope := []

namespace PumpSession
open Broadcast (Action)

/-- A turn of the pump, or a step that is taken beside it. -/
inductive Move where
  | turn
  | beside (action : Action)

/-- The pump subscribes as the latest subscriber of the bus. -/
def start (script : ScriptState) (bus : Broadcast) : PumpSession :=
  { pump := .start script bus.cursors.length, bus := bus.subscribe }

/-- Nobody else uses the subscription of the pump. A sender is made from the bus or from another sender, so one of them
must still be there. -/
def allows (session : PumpSession) : Action → Bool
  | .receive subscriber | .dropSubscriber subscriber => subscriber != session.pump.subscriber
  | .addSender _ => !session.bus.isClosed
  | .subscribe | .publish _ _ | .dropSender _ | .close => true

/-- The envelope whose event the next turn of the pump hands to the script. -/
def intake? (session : PumpSession) : Option Envelope :=
  if session.pump.stopped then none else (session.bus.receive session.pump.subscriber).1.envelope?

def turn (session : PumpSession) : Program PumpSession := do
  let (pump, bus) ← session.pump.turn session.bus
  pure { session with pump := pump, bus := bus, handled := session.handled ++ session.intake?.toList }

/-- A step beside the pump. One that is not allowed does not happen. -/
def beside (session : PumpSession) (action : Action) : PumpSession :=
  if session.allows action then
    { session with
      bus := session.bus.act action
      published := session.published ++ (session.bus.publication? action).toList }
  else session

def step (session : PumpSession) : Move → Program PumpSession
  | .turn => session.turn
  | .beside action => pure (session.beside action)

def follow (session : PumpSession) : List Move → Program PumpSession
  | [] => pure session
  | move :: rest => do
    let next ← session.step move
    next.follow rest

end PumpSession

namespace Broadcast
variable {bus : Broadcast}

/-! ### A closed bus -/

theorem isClosed_iff : bus.isClosed = true ↔ bus.isOpen = false ∧ ∀ sender ∈ bus.senders, sender = none := by
  simp [isClosed]

theorem sourceOf?_of_isClosed (closed : bus.isClosed = true) (sender : Nat) : bus.sourceOf? sender = none := by
  unfold sourceOf?
  cases found : bus.senders[sender]? with
  | none => rfl
  | some source =>
    rw [(isClosed_iff.mp closed).2 source (List.mem_of_getElem? found)]
    rfl

/-- Nothing is published on a closed bus any more. -/
theorem publication?_of_isClosed (closed : bus.isClosed = true) (action : Action) :
    bus.publication? action = none := by
  cases action with
  | publish sender event => rw [publication?, sourceOf?_of_isClosed closed, Option.map_none]
  | subscribe | addSender | receive | dropSubscriber | dropSender | close => rfl

theorem isClosed_receive (bus : Broadcast) (subscriber : Nat) :
    (bus.receive subscriber).2.isClosed = bus.isClosed := by
  unfold receive
  split <;> rfl

/-- What is closed stays closed, unless somebody becomes a sender. -/
theorem isClosed_act (closed : bus.isClosed = true) {action : Action}
    (others : ∀ source, action ≠ .addSender source) : (bus.act action).isClosed = true := by
  cases action with
  | addSender source => exact absurd rfl (others source)
  | publish sender event =>
    rw [act, sourceOf?_of_isClosed closed]
    exact closed
  | receive receiver => exact (isClosed_receive bus receiver).trans closed
  | dropSender sender =>
    obtain ⟨given, gone⟩ := isClosed_iff.mp closed
    refine isClosed_iff.mpr ⟨given, fun source member => ?_⟩
    rcases List.mem_or_eq_of_mem_set member with old | new
    · exact gone source old
    · exact new
  | close => exact isClosed_iff.mpr ⟨rfl, (isClosed_iff.mp closed).2⟩
  | subscribe | dropSubscriber => exact closed

/-! ### What is kept -/

/-- Whatever is done, the bus keeps the latest of some events. -/
theorem Carries.act {sent : List Event} (carries : bus.Carries sent) (action : Action) :
    ∃ later, (bus.act action).Carries later := by
  cases action with
  | publish sender event =>
    rw [Broadcast.act]
    cases bus.sourceOf? sender with
    | none => exact ⟨sent, carries⟩
    | some source =>
      by_cases nobody : bus.subscriberCount = 0
      · dsimp only
        rw [Broadcast.publish, if_pos nobody]
        exact ⟨sent, carries.roomy, carries.overwritten_eq, carries.kept_eq⟩
      · exact ⟨_, carries.publish nobody source event⟩
  | receive receiver =>
    rw [Broadcast.act, Broadcast.receive]
    split
    · exact ⟨sent, carries.move _⟩
    · exact ⟨sent, carries⟩
  | subscribe | addSender | dropSubscriber | dropSender | close =>
    exact ⟨sent, carries.roomy, carries.overwritten_eq, carries.kept_eq⟩

/-- Whatever is done with a bus, it carries some events. -/
theorem Carries.after {sent : List Event} (carries : bus.Carries sent) (actions : List Action) :
    ∃ later, (bus.after actions).Carries later := by
  induction actions generalizing bus sent with
  | nil => exact ⟨sent, carries⟩
  | cons action rest ih =>
    obtain ⟨_, next⟩ := carries.act action
    exact ih next

/-- A receive that finds something leaves less to receive. -/
theorem remaining_receiveAt_lt {position : Nat} (inside : position < bus.tail) :
    bus.remaining (bus.receiveAt position).2 < bus.remaining position := by
  unfold tail at inside
  rcases bus.receiveAt_cases position with ⟨behind, lagged⟩ | ⟨_, oldest, _, given⟩ | ⟨atEnd, _⟩
  · rw [lagged, remaining, if_neg (Nat.lt_irrefl _), remaining, if_pos behind, tail]
    omega
  · rw [given, remaining, if_neg (by dsimp only; omega), remaining, if_neg (by omega), tail]
    dsimp only
    omega
  · unfold tail at atEnd
    omega

end Broadcast

namespace Pump
open Receipts

theorem subscriber_handle (pump : Pump) (receipt : Receipt) (host : Host) (state : host.State) :
    ((pump.handle receipt).run host state).value.subscriber = pump.subscriber := by
  cases receipt with
  | envelope envelope => simp only [handle, Program.run_bind, Program.run_pure]
  | lagged | empty | closed => rfl

/-- The report grows by what was received. -/
theorem total_handle (pump : Pump) (receipt : Receipt) (start : Nat) (host : Host) (state : host.State) :
    start + ((pump.handle receipt).run host state).value.report.total =
      reached (start + pump.report.total) [receipt] := by
  cases receipt with
  | envelope envelope =>
    rw [reached_envelope]
    simp only [handle, Program.run_bind, Program.run_pure, PumpReport.total_count, Nat.add_assoc]
  | lagged missed =>
    rw [reached_lagged]
    simp only [handle, Program.run_pure, PumpReport.total]
    omega
  | empty | closed => rfl

end Pump

namespace PumpSession
open Broadcast (Action)

section Runs
variable (session : PumpSession) (host : Host) (state : host.State)

theorem run_turn_of_stopped (stopped : session.pump.stopped = true) :
    session.turn.run host state = ⟨session, [], state⟩ := by
  simp only [turn, intake?, Pump.turn, stopped, ↓reduceIte, Program.run_bind, Program.run_pure, Option.toList_none,
    List.append_nil]

theorem run_turn_of_running (running : session.pump.stopped = false) :
    session.turn.run host state =
      let received := session.bus.receive session.pump.subscriber
      let handled := (session.pump.handle received.1).run host state
      ⟨{ session with
          pump := handled.value
          bus := received.2
          handled := session.handled ++ received.1.envelope?.toList }, handled.calls, handled.state⟩ := by
  simp only [turn, intake?, Pump.turn, running, Bool.false_eq_true, ↓reduceIte, Program.run_bind, Program.run_pure,
    List.append_nil]

theorem run_follow_append (first second : List Move) :
    (session.follow (first ++ second)).run host state =
      let begun := (session.follow first).run host state
      let later := (begun.value.follow second).run host begun.state
      ⟨later.value, begun.calls ++ later.calls, later.state⟩ := by
  induction first generalizing session state with
  | nil => rfl
  | cons move rest ih => simp only [List.cons_append, follow, Program.run_bind, ih, List.append_assoc]

/-- A number of turns in a row is a session in which nothing else happens. -/
theorem run_turns (count : Nat) :
    (session.pump.turns session.bus count).run host state =
      let done := (session.follow (List.replicate count .turn)).run host state
      ⟨(done.value.pump, done.value.bus), done.calls, done.state⟩ := by
  induction count generalizing session state with
  | zero => rfl
  | succ count ih =>
    simp only [Pump.turns, List.replicate_succ, follow, step, Program.run_bind]
    have later := ih (session.turn.run host state).value (session.turn.run host state).state
    simp only [turn, Program.run_bind, Program.run_pure, List.append_nil] at later ⊢
    rw [later]

end Runs

/-- The pump is subscribed, and stands where exactly those publications have been accounted for that came before it and
those that its report tells of. -/
structure Tracks (before : List (EventSource × Event)) (room : Nat) (session : PumpSession) : Prop where
  there : session.bus.IsThere session.pump.subscriber
  awaits : session.bus.Awaits session.pump.subscriber (before.length + session.pump.report.total)
  records : session.bus.Records (before ++ session.published)
  carries : ∃ carried, session.bus.Carries carried
  size_eq : session.bus.size = room

/-- What a turn of the pump can come to, when there are so many publications from before it came and so much room. -/
inductive Turned (before room : Nat) (session : PumpSession) {host : Host} (state : host.State) :
    Run host.State PumpSession → Prop where
  | rest (stopped : session.pump.stopped = true) : Turned before room session state ⟨session, [], state⟩
  | wait {bus : Broadcast} (running : session.pump.stopped = false)
      (all : session.pump.report.total = session.published.length) :
      Turned before room session state ⟨{ session with bus := bus }, [], state⟩
  | lose {bus : Broadcast} {missed : Nat} (running : session.pump.stopped = false)
      (overtaken : session.pump.report.total + missed + room ≤ session.published.length) :
      Turned before room session state
        ⟨{ session with
            bus := bus
            pump := { session.pump with
              report := { session.pump.report with skipped := session.pump.report.skipped + missed } } }, [], state⟩
  | answer {bus : Broadcast} {envelope : Envelope} (running : session.pump.stopped = false)
      (number : envelope.sequence = before + session.pump.report.total + 1)
      (there : session.published[session.pump.report.total]? = some (envelope.source, envelope.event)) :
      Turned before room session state
        (let answered := (session.pump.script.answer envelope.event).run host state
        ⟨{ session with
            bus := bus
            pump := { session.pump with
              script := answered.value.2
              report := session.pump.report.count answered.value.1
              stopped := envelope.event.isShutdown }
            handled := session.handled ++ [envelope] }, answered.calls, answered.state⟩)
  | finish {bus : Broadcast} (running : session.pump.stopped = false) (closed : bus.isClosed = true)
      (all : session.pump.report.total = session.published.length) :
      Turned before room session state
        ⟨{ session with bus := bus, pump := { session.pump with stopped := true } }, [], state⟩

namespace Tracks
variable {before : List (EventSource × Event)} {room : Nat} {session : PumpSession}

/-- A pump that has just come to a bus accounts for everything that was published before. -/
theorem start (roomy : 0 < room) (script : ScriptState) (earlier : List Action) :
    let opened : Broadcast := { size := room }
    (PumpSession.start script (opened.after earlier)).Tracks (opened.publications earlier) room := by
  intro opened
  have size : (opened.after earlier).size = room := opened.size_after earlier
  have unused : opened.Records [] := ⟨rfl, fun _ member => absurd member List.not_mem_nil⟩
  have records : (opened.after earlier).Records (opened.publications earlier) := unused.after earlier
  have empty : opened.Carries [] := .nil roomy rfl rfl
  obtain ⟨carried, carries⟩ := empty.after earlier
  refine ⟨⟨_, List.getElem?_concat_length⟩, ?_, ?_, ?_, size⟩
  · have awaits : (opened.after earlier).subscribe.Awaits _ _ := .subscribe (size ▸ roomy)
    rw [records.published_eq] at awaits
    exact awaits
  · exact (List.append_nil _).symm ▸ ⟨records.published_eq, records.kept⟩
  · exact ⟨carried, carries.roomy, carries.overwritten_eq, carries.kept_eq⟩

/-- What happens beside the pump leaves it subscribed, and moves no position of its own. -/
theorem beside (tracks : session.Tracks before room) (action : Action) :
    (session.beside action).Tracks before room := by
  unfold PumpSession.beside
  by_cases allowed : session.allows action = true
  · rw [if_pos allowed]
    obtain ⟨_, carries⟩ := tracks.carries
    have silent : session.bus.receipt? session.pump.subscriber action = none := by
      cases action with
      | receive receiver =>
        have other : receiver ≠ session.pump.subscriber := by simpa [allows] using allowed
        exact if_neg other
      | subscribe | addSender | publish | dropSubscriber | dropSender | close => rfl
    have stays : action ≠ .dropSubscriber session.pump.subscriber := by
      rintro rfl
      simp [allows] at allowed
    refine ⟨?_, ?_, ?_, carries.act action, ?_⟩
    · exact Broadcast.isThere_act.mpr (.inr ⟨tracks.there, stays⟩)
    · have awaits := tracks.awaits.act action
      rw [silent] at awaits
      exact awaits
    · rw [← List.append_assoc]
      exact tracks.records.act action
    · exact (session.bus.size_act action).trans tracks.size_eq
  · rw [if_neg allowed]
    exact tracks

theorem turn (tracks : session.Tracks before room) (host : Host) (state : host.State) :
    (session.turn.run host state).value.Tracks before room := by
  cases running : session.pump.stopped with
  | true =>
    rw [run_turn_of_stopped session host state running]
    exact tracks
  | false =>
    rw [run_turn_of_running session host state running]
    obtain ⟨_, carries⟩ := tracks.carries
    refine ⟨?_, ?_, tracks.records.receive _, carries.act (.receive session.pump.subscriber), ?_⟩
    · dsimp only
      rw [Pump.subscriber_handle]
      exact Broadcast.isThere_receive.mpr tracks.there
    · dsimp only
      rw [Pump.subscriber_handle, Pump.total_handle]
      exact tracks.awaits.receive
    · exact (session.bus.size_act (.receive session.pump.subscriber)).trans tracks.size_eq

/-- A turn comes to one of these things. -/
theorem turned (tracks : session.Tracks before room) (host : Host) (state : host.State) :
    Turned before.length room session state (session.turn.run host state) := by
  cases running : session.pump.stopped with
  | true =>
    rw [run_turn_of_stopped session host state running]
    exact .rest running
  | false =>
    obtain ⟨position, cursor⟩ := tracks.there
    obtain ⟨carried, carries⟩ := tracks.carries
    have standing := tracks.awaits.standing position cursor
    have outstanding := standing.outstanding
    have within := standing.within
    rw [tracks.records.published_eq, List.length_append] at outstanding
    unfold Broadcast.tail at outstanding within
    have received := Broadcast.receive_eq cursor
    rw [run_turn_of_running session host state running]
    rcases session.bus.receiveAt_cases position with ⟨behind, lagged⟩ | ⟨envelope, _, stored, given⟩ | ⟨atEnd, _⟩
    · have overwritten := carries.overwritten_eq
      have kept := carries.length_kept
      rw [tracks.size_eq] at overwritten
      rw [received, lagged]
      simp only [Pump.handle, Program.run_pure, Receipt.envelope?, Option.toList_none, List.append_nil]
      -- Something was overwritten, so the bus is full with what was published behind the loss.
      exact .lose running (by omega)
    · rw [given] at received
      have number := tracks.awaits.sequence_eq (by rw [received])
      obtain ⟨_, found⟩ := tracks.records.kept envelope (List.mem_of_getElem? stored)
      rw [List.getElem?_append_right (by omega)] at found
      rw [received]
      simp only [Pump.handle, Program.run_bind, Program.run_pure, Receipt.envelope?, Option.toList_some,
        List.append_nil]
      refine .answer running number ?_
      rw [← found]
      congr 1
      omega
    · have all : session.pump.report.total = session.published.length := by
        unfold Broadcast.tail at atEnd
        omega
      rw [received, Broadcast.receiveAt_of_tail_le atEnd]
      cases closed : session.bus.isClosed with
      | true =>
        simp only [↓reduceIte, Pump.handle, Program.run_pure, Receipt.envelope?, Option.toList_none, List.append_nil]
        refine .finish running ?_ all
        exact closed
      | false =>
        simp only [Bool.false_eq_true, ↓reduceIte, Pump.handle, Program.run_pure, Receipt.envelope?,
          Option.toList_none, List.append_nil]
        exact .wait running all

theorem step (tracks : session.Tracks before room) (move : Move) (host : Host) (state : host.State) :
    ((session.step move).run host state).value.Tracks before room := by
  cases move with
  | turn => exact tracks.turn host state
  | beside action => exact tracks.beside action

/-- A session keeps track of its pump over any moves. -/
theorem follow (tracks : session.Tracks before room) (moves : List Move) (host : Host) (state : host.State) :
    ((session.follow moves).run host state).value.Tracks before room := by
  induction moves generalizing session state with
  | nil => exact tracks
  | cons move rest ih =>
    simp only [PumpSession.follow, Program.run_bind]
    exact ih (tracks.step move host state) _

end Tracks

/-! ### How a session ends -/

section Ends
variable {session : PumpSession}

/-- A pump that has stopped stays as it is, and its script is left alone. -/
theorem run_follow_of_stopped (stopped : session.pump.stopped = true) (moves : List Move) (host : Host)
    (state : host.State) :
    let ran := (session.follow moves).run host state
    ran.value.pump = session.pump ∧ ran.value.handled = session.handled ∧ ran.calls = [] ∧ ran.state = state := by
  induction moves generalizing session with
  | nil => exact ⟨rfl, rfl, rfl, rfl⟩
  | cons move rest ih =>
    simp only [follow, Program.run_bind]
    cases move with
    | turn =>
      rw [step, run_turn_of_stopped session host state stopped]
      exact ih stopped
    | beside action =>
      have same : (session.beside action).pump = session.pump ∧ (session.beside action).handled = session.handled := by
        unfold PumpSession.beside
        split <;> exact ⟨rfl, rfl⟩
      obtain ⟨pump, handled, calls, unmoved⟩ := ih (same.1 ▸ stopped)
      exact ⟨pump.trans same.1, handled.trans same.2, calls, unmoved⟩

/-- On a closed bus the pump stops when it is given one turn more than it has left to receive. -/
theorem stopped_turns (closed : session.bus.isClosed = true) {position count : Nat}
    (cursor : session.bus.cursors[session.pump.subscriber]? = some (some position))
    (enough : session.bus.remaining position < count) (host : Host) (state : host.State) :
    ((session.follow (List.replicate count .turn)).run host state).value.pump.stopped = true := by
  induction count generalizing session position state with
  | zero => omega
  | succ count ih =>
    cases running : session.pump.stopped with
    | true =>
      rw [(run_follow_of_stopped running _ host state).1]
      exact running
    | false =>
      have received := Broadcast.receive_eq cursor
      have known := (List.getElem?_eq_some_iff.mp cursor).1
      simp only [List.replicate_succ, follow, step, Program.run_bind]
      rw [run_turn_of_running session host state running, received]
      -- A turn leaves less to receive, or finds the closed bus drained.
      by_cases inside : position < session.bus.tail
      · have less := Broadcast.remaining_receiveAt_lt inside
        refine @ih _ ?_ (session.bus.receiveAt position).2 ?_ ?_ _
        · exact closed
        · dsimp only
          rw [Pump.subscriber_handle]
          exact List.getElem?_set_self known
        · exact Nat.lt_of_lt_of_le less (Nat.le_of_lt_succ enough)
      · rw [Broadcast.receiveAt_of_tail_le (Nat.le_of_not_lt inside), closed]
        rw [(run_follow_of_stopped rfl _ host _).1]
        rfl

end Ends
end PumpSession
end ScriptBridge
