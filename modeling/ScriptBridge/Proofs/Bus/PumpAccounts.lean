import ScriptBridge.Proofs.Containment
import ScriptBridge.Proofs.Bus.Sessions

/-!
# The account of a pump

However the turns of a pump are mixed with what others do on the bus, its report and its script account at every moment
for a first part of what was published since it subscribed: each publication in it was handed to the script, in order,
or overtaken by as many later ones as the bus has room for. The part ends with the first shutdown that is handed to the
script, or is everything when the bus is closed, and there the pump stops.
-/
namespace ScriptBridge

theorem ScriptState.run_answerEach_concat (script : ScriptState) (events : List Event) (event : Event) (host : Host)
    (state : host.State) :
    (script.answerEach (events ++ [event])).run host state =
      let earlier := (script.answerEach events).run host state
      let last := (earlier.value.2.answer event).run host earlier.state
      ⟨(earlier.value.1 ++ [last.value.1], last.value.2), earlier.calls ++ last.calls, last.state⟩ := by
  induction events generalizing script state with
  | nil => simp only [List.nil_append, answerEach, Program.run_bind, Program.run_pure, List.append_nil]
  | cons head rest ih =>
    simp only [List.cons_append, run_answerEach_cons, ih, List.append_assoc]

/-- The first publications, so many in number, are accounted for: the given envelopes carry some of them in their
order, and the others were overtaken by as many as the bus has room for. Numbers start after an earlier publication. -/
structure Covers (before room total : Nat) (published : List (EventSource × Event)) (handled : List Envelope) :
    Prop where
  within : total ≤ published.length
  ordered : (handled.map fun envelope => (envelope.source, envelope.event)).Sublist (published.take total)
  increasing : handled.Pairwise fun earlier later => earlier.sequence < later.sequence
  numbered : ∀ envelope ∈ handled, before < envelope.sequence ∧ envelope.sequence ≤ before + total ∧
    published[envelope.sequence - before - 1]? = some (envelope.source, envelope.event)
  overtaken : ∀ place < total,
    (∃ envelope ∈ handled, envelope.sequence = before + place + 1) ∨ place + room < published.length

namespace Covers
variable {before room total : Nat} {published : List (EventSource × Event)} {handled : List Envelope}

theorem nil (before room : Nat) : Covers before room 0 [] [] where
  within := Nat.le_refl 0
  ordered := List.nil_sublist _
  increasing := List.Pairwise.nil
  numbered := fun _ member => absurd member List.not_mem_nil
  overtaken := fun place below => absurd below (Nat.not_lt_zero place)

/-- What is published later lies behind all that has been accounted for. -/
theorem publish (covers : Covers before room total published handled) (later : List (EventSource × Event)) :
    Covers before room total (published ++ later) handled := by
  have within := covers.within
  have longer : published.length ≤ (published ++ later).length := by
    rw [List.length_append]
    exact Nat.le_add_right _ _
  refine ⟨Nat.le_trans within longer, ?_, covers.increasing, ?_, ?_⟩
  · rw [List.take_append_of_le_length within]
    exact covers.ordered
  · intro envelope member
    obtain ⟨above, below, found⟩ := covers.numbered envelope member
    refine ⟨above, below, ?_⟩
    rw [List.getElem?_append_left (List.getElem?_eq_some_iff.mp found).1]
    exact found
  · intro place below
    rcases covers.overtaken place below with reached | far
    · exact .inl reached
    · exact .inr (Nat.lt_of_lt_of_le far longer)

/-- Publications may be left out when so many others came behind them that the bus had no room. -/
theorem lose (covers : Covers before room total published handled) {missed : Nat}
    (full : total + missed + room ≤ published.length) : Covers before room (total + missed) published handled := by
  refine ⟨by omega, ?_, covers.increasing, ?_, ?_⟩
  · exact covers.ordered.trans (List.take_sublist_take_left (Nat.le_add_right total missed))
  · intro envelope member
    obtain ⟨above, below, found⟩ := covers.numbered envelope member
    exact ⟨above, by omega, found⟩
  · intro place below
    by_cases earlier : place < total
    · exact covers.overtaken place earlier
    · right
      omega

/-- The envelope of the next number accounts for one more publication. -/
theorem handle (covers : Covers before room total published handled) {envelope : Envelope}
    (number : envelope.sequence = before + total + 1)
    (there : published[total]? = some (envelope.source, envelope.event)) :
    Covers before room (total + 1) published (handled ++ [envelope]) := by
  refine ⟨(List.getElem?_eq_some_iff.mp there).1, ?_, ?_, ?_, ?_⟩
  · rw [List.map_append, List.take_add_one, there]
    exact covers.ordered.append (List.Sublist.refl _)
  · refine List.pairwise_append.mpr ⟨covers.increasing, List.pairwise_singleton _ _, ?_⟩
    intro earlier member last same
    obtain ⟨_, below, _⟩ := covers.numbered earlier member
    rw [List.mem_singleton.mp same]
    omega
  · intro carried member
    rcases List.mem_append.mp member with earlier | last
    · obtain ⟨above, below, found⟩ := covers.numbered carried earlier
      exact ⟨above, by omega, found⟩
    · rw [List.mem_singleton.mp last]
      refine ⟨by omega, by omega, ?_⟩
      rw [← there]
      congr 1
      omega
  · intro place below
    rcases Nat.lt_succ_iff_lt_or_eq.mp below with earlier | rfl
    · rcases covers.overtaken place earlier with ⟨carried, member, same⟩ | far
      · exact .inl ⟨carried, List.mem_append_left _ member, same⟩
      · exact .inr far
    · exact .inl ⟨envelope, List.mem_append_right _ (List.mem_singleton_self _), number⟩

end Covers

namespace PumpSession
open Broadcast (Action)

/-- The pump has come to a shutdown: the last envelope that it handled carries one, and no other does. -/
def AtShutdown (before : Nat) (session : PumpSession) : Prop :=
  ∃ earlier last, session.handled = earlier ++ [last] ∧ last.event.isShutdown = true ∧
    (∀ envelope ∈ earlier, envelope.event.isShutdown = false) ∧
    last.sequence = before + session.pump.report.total ∧
    session.published[session.pump.report.total - 1]? = some (last.source, last.event)

/-- The pump has come to the end of what was published, and nothing more can be. -/
def AtEnd (session : PumpSession) : Prop :=
  session.bus.isClosed = true ∧ session.pump.report.total = session.published.length ∧
    ∀ envelope ∈ session.handled, envelope.event.isShutdown = false

/-- What a session comes to, when so many publications were made before the pump came and the bus has so much room. -/
structure Accounts {host : Host} (script : ScriptState) (begun : host.State) (before room : Nat)
    (session : PumpSession) (calls : List HostRequest) (state : host.State) : Prop where
  /-- The script answered the events that it was handed, and the host heard of nothing else. The report counts them. -/
  answered : ∃ answers,
    (script.answerEach (session.handled.map Envelope.event)).run host begun =
      ⟨(answers, session.pump.script), calls, state⟩ ∧
    session.pump.report =
      { identity := script.identity
        events := session.handled.length
        invoked := answers.countP EventAnswer.isInvoked
        failed := answers.countP EventAnswer.isFailed
        skipped := session.pump.report.skipped }
  covers : Covers before room session.pump.report.total session.published session.handled
  running : session.pump.stopped = false → ∀ envelope ∈ session.handled, envelope.event.isShutdown = false
  stopped : session.pump.stopped = true → session.AtShutdown before ∨ session.AtEnd

namespace Accounts
variable {host : Host} {script : ScriptState} {begun : host.State} {before room : Nat} {session : PumpSession}
  {calls : List HostRequest} {state : host.State}

theorem start (script : ScriptState) (bus : Broadcast) (begun : host.State) (before room : Nat) :
    (PumpSession.start script bus).Accounts script begun before room [] begun where
  answered := ⟨[], rfl, rfl⟩
  covers := .nil before room
  running := fun _ _ member => absurd member List.not_mem_nil
  stopped := fun stopped => absurd stopped Bool.false_ne_true

/-- What others do adds to what was published, and to nothing else. -/
theorem beside (accounts : session.Accounts script begun before room calls state) (action : Action) :
    (session.beside action).Accounts script begun before room calls state := by
  unfold PumpSession.beside
  by_cases allowed : session.allows action = true
  · rw [if_pos allowed]
    refine ⟨accounts.answered, accounts.covers.publish _, accounts.running, fun stopped => ?_⟩
    rcases accounts.stopped stopped with ⟨earlier, last, split, shutdown, others, number, found⟩ | ⟨closed, all, none⟩
    · refine .inl ⟨earlier, last, split, shutdown, others, number, ?_⟩
      dsimp only
      rw [List.getElem?_append_left (List.getElem?_eq_some_iff.mp found).1]
      exact found
    · have noSender : ∀ source, action ≠ .addSender source := by
        rintro source rfl
        rw [allows, closed] at allowed
        cases allowed
      refine .inr ⟨Broadcast.isClosed_act closed noSender, ?_, none⟩
      dsimp only
      rw [Broadcast.publication?_of_isClosed closed, Option.toList_none, List.append_nil]
      exact all
  · rw [if_neg allowed]
    exact accounts

/-- A turn adds an event that is handled, or a loss, or ends the session. -/
theorem turned (accounts : session.Accounts script begun before room calls state)
    {next : Run host.State PumpSession} (turned : Turned before room session state next) :
    next.value.Accounts script begun before room (calls ++ next.calls) next.state := by
  cases turned with
  | rest stopped =>
    rw [List.append_nil]
    exact accounts
  | wait still all =>
    rw [List.append_nil]
    exact ⟨accounts.answered, accounts.covers, accounts.running,
      fun stopped => absurd stopped (ne_true_of_eq_false still)⟩
  | finish still closed all =>
    rw [List.append_nil]
    have none := accounts.running still
    exact ⟨accounts.answered, accounts.covers, fun _ => none, fun _ => .inr ⟨closed, all, none⟩⟩
  | lose still overtaken =>
    rw [List.append_nil]
    refine ⟨?_, ?_, accounts.running,
      fun stopped => absurd stopped (ne_true_of_eq_false still)⟩
    · obtain ⟨answers, answered, report⟩ := accounts.answered
      refine ⟨answers, answered, ?_⟩
      dsimp only
      rw [report]
    · have covers := accounts.covers.lose overtaken
      rw [PumpReport.total, Nat.add_assoc] at covers
      exact covers
  | @answer bus envelope still number there =>
    have earlier := accounts.running still
    refine ⟨?_, ?_, ?_, ?_⟩
    · obtain ⟨answers, answered, report⟩ := accounts.answered
      refine ⟨answers ++ [((session.pump.script.answer envelope.event).run host state).value.1], ?_, ?_⟩
      · dsimp only
        rw [List.map_append, List.map_singleton, ScriptState.run_answerEach_concat, answered]
      · dsimp only
        rw [PumpReport.count_eq, report, List.countP_append, List.countP_append, List.length_append]
        rfl
    · dsimp only
      rw [PumpReport.total_count]
      exact accounts.covers.handle number there
    · intro stays envelope member
      rcases List.mem_append.mp member with old | last
      · exact earlier envelope old
      · rw [List.mem_singleton.mp last]
        exact stays
    · intro ends
      left
      refine ⟨session.handled, envelope, rfl, ends, earlier, ?_, ?_⟩
      · dsimp only
        rw [PumpReport.total_count]
        exact number
      · dsimp only
        rw [PumpReport.total_count]
        exact there

/-- Every move keeps the account. -/
theorem step {earlier : List (EventSource × Event)}
    (accounts : session.Accounts script begun earlier.length room calls state) (tracks : session.Tracks earlier room)
    (move : Move) :
    let ran := (session.step move).run host state
    ran.value.Accounts script begun earlier.length room (calls ++ ran.calls) ran.state := by
  cases move with
  | turn => exact accounts.turned (tracks.turned host state)
  | beside action =>
    simp only [PumpSession.step, Program.run_pure, List.append_nil]
    exact accounts.beside action

/-- The account is kept over any moves. -/
theorem follow {earlier : List (EventSource × Event)}
    (accounts : session.Accounts script begun earlier.length room calls state) (tracks : session.Tracks earlier room)
    (moves : List Move) :
    let ran := (session.follow moves).run host state
    ran.value.Accounts script begun earlier.length room (calls ++ ran.calls) ran.state := by
  induction moves generalizing session calls state with
  | nil =>
    simp only [PumpSession.follow, Program.run_pure, List.append_nil]
    exact accounts
  | cons move rest ih =>
    simp only [PumpSession.follow, Program.run_bind]
    rw [← List.append_assoc]
    exact ih (accounts.step tracks move) (tracks.step move host state)

end Accounts

/-- How a session comes to its end from where the moves have led it. -/
structure Ends {host : Host} (start : PumpSession) (begun : host.State) (moves : List Move) : Prop where
  /-- When nobody can publish any more, the pump stops after some more turns, and draining the bus is to take them. -/
  closes :
    let after := (start.follow moves).run host begun
    let drained := (after.value.pump.drain after.value.bus).run host after.state
    after.value.bus.isClosed = true → ∃ turns,
      let last := (start.follow (moves ++ List.replicate turns .turn)).run host begun
      last.value.pump.stopped = true ∧ drained.value = (last.value.pump, last.value.bus) ∧
        last.calls = after.calls ++ drained.calls ∧ last.state = drained.state
  /-- A pump that has stopped handles nothing more, and whatever comes later no callback runs and nothing is counted. -/
  rests :
    let after := (start.follow moves).run host begun
    after.value.pump.stopped = true → ∀ more,
      let later := (start.follow (moves ++ more)).run host begun
      later.value.pump = after.value.pump ∧ later.value.handled = after.value.handled ∧
        later.calls = after.calls ∧ later.state = after.state

/-- Closing the bus lets the pump come to its end, and from there nothing is handled any more. -/
theorem Tracks.ends {before : List (EventSource × Event)} {room : Nat} {start : PumpSession} {host : Host}
    {begun : host.State} (tracks : start.Tracks before room) (moves : List Move) : Ends start begun moves where
  closes := by
    intro after drained closed
    obtain ⟨position, cursor⟩ := (tracks.follow moves host begun).there
    have enough : after.value.bus.remaining position < after.value.bus.kept.length + 2 :=
      Nat.lt_succ_of_le (after.value.bus.remaining_le position)
    refine ⟨after.value.bus.kept.length + 2, ?_⟩
    have drains := run_turns after.value host after.state (after.value.bus.kept.length + 2)
    rw [run_follow_append]
    refine ⟨stopped_turns closed cursor enough host after.state, ?_⟩
    simp only [drained, Pump.drain, drains]
    exact ⟨rfl, rfl, rfl⟩
  rests := by
    intro after stopped more
    obtain ⟨pump, handled, calls, state⟩ := run_follow_of_stopped stopped more host after.state
    rw [run_follow_append]
    refine ⟨pump, handled, ?_, state⟩
    dsimp only
    rw [calls, List.append_nil]

/-- A bus can be made with every capacity from one up to the greatest. Whatever was done on it before a pump came, and
however the turns of the pump are mixed with what others do, its account is right at every moment. It stops with the
first shutdown that it handles, or else as soon as a closed bus is drained, and then it rests. -/
theorem pump_accounts_for_its_session (script : ScriptState) {capacity : Nat} (positive : 1 ≤ capacity) :
    ((∃ opened, Broadcast.create capacity = .ok opened) ↔ capacity ≤ Broadcast.maxCapacity) ∧
    ∀ opened, Broadcast.create capacity = .ok opened →
      ∀ (earlier : List Action) (host : Host) (begun : host.State) (moves : List Move),
        let start := PumpSession.start script (opened.after earlier)
        let after := (start.follow moves).run host begun
        after.value.Accounts script begun (opened.publications earlier).length (2 ^ Nat.clog 2 capacity)
          after.calls after.state ∧
        Ends start begun moves := by
  constructor
  · constructor
    · rintro ⟨opened, created⟩
      exact (Broadcast.create_eq_ok_iff.mp created).2.1
    · intro fits
      exact ⟨_, Broadcast.create_eq_ok_iff.mpr ⟨positive, fits, rfl⟩⟩
  · intro opened created earlier host begun moves start after
    obtain ⟨_, _, rfl⟩ := Broadcast.create_eq_ok_iff.mp created
    have roomy : 0 < 2 ^ Nat.clog 2 capacity := Nat.two_pow_pos _
    simp only [start, after, Broadcast.ringSize_eq]
    have tracks := Tracks.start roomy script earlier
    exact ⟨(Accounts.start script _ begun _ _).follow tracks moves, tracks.ends moves⟩

/-- With room for two events, four and a shutdown are published before the pump takes its first turn. It loses three and
handles the others. -/
theorem pump_accounts_for_its_session_lagging :
    let seek : Move := .beside (.publish 0 (.ofKind .seek .none))
    let begun : SimulatedHost.host.State := ({} : SimulatedHost)
    let start := PumpSession.start (.fresh ⟨"demo"⟩) { size := 2 }
    let moves := [.beside (.addSender .host), seek, seek, seek, seek, .beside (.publish 0 .shutdown), .turn, .turn, .turn]
    let after := (start.follow moves).run SimulatedHost.host begun
    1 ≤ 2 ∧ Broadcast.create 2 = .ok { size := 2 } ∧
    after.value.pump.report = { identity := ⟨"demo"⟩, events := 2, skipped := 3 } ∧ after.value.pump.stopped = true ∧
    after.value.Accounts (.fresh ⟨"demo"⟩) begun 0 (2 ^ Nat.clog 2 2) after.calls after.state ∧
    Ends start begun moves := by
  intro seek begun start moves after
  have created : Broadcast.create 2 = .ok { size := 2 } := rfl
  obtain ⟨accounts, ends⟩ := (pump_accounts_for_its_session (.fresh ⟨"demo"⟩) (by decide : 1 ≤ 2)).2 _ created []
    SimulatedHost.host begun moves
  refine ⟨by decide, created, ?_, ?_, accounts, ends⟩
  · decide +kernel
  · decide +kernel

end PumpSession
end ScriptBridge
