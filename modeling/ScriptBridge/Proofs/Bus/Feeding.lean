import ScriptBridge.Bus.Pump
import ScriptBridge.Proofs.Answering
import ScriptBridge.Proofs.Bus.Window

/-!
# How a pump feeds its script

A turn of a pump does one of four things: a stopped pump rests, one that has seen everything waits, one that fell behind
counts its loss, and any other hands the next event to its script. From that follows what holds of a pump at every time:
what its script answered and what it lost adds up to its position, and it has lost nothing of the latest events.
-/
namespace ScriptBridge

def EventAnswer.isInvoked : EventAnswer → Bool
  | .invoked _ => true
  | _ => false

/-- The script gives these answers to these events, one after another, whatever becomes of the host between them. -/
inductive ScriptState.Answers (host : Host) (script : ScriptState) :
    List Event → List EventAnswer → ScriptState → Prop where
  | none : Answers host script [] [] script
  | next {events : List Event} {answers : List EventAnswer} {current : ScriptState}
      (before : Answers host script events answers current) (event : Event) (state : host.State) :
      Answers host script (events ++ [event]) (answers ++ [((current.answer event).run host state).value.1])
        ((current.answer event).run host state).value.2

theorem ScriptState.Answers.length_eq {host : Host} {script last : ScriptState} {events : List Event}
    {answers : List EventAnswer} (answered : script.Answers host events answers last) :
    answers.length = events.length := by
  induction answered with
  | none => rfl
  | next _ event state ih => rw [List.length_append, List.length_append, ih]; rfl

/-- The report on these answers and on so many events that were lost. -/
def PumpReport.ofAnswers (identity : ScriptId) (answers : List EventAnswer) (skipped : Nat) : PumpReport :=
  { identity := identity
    events := answers.length
    invoked := answers.countP EventAnswer.isInvoked
    failed := answers.countP EventAnswer.isFailed
    skipped := skipped }

/-- Counting one more answer reports on the answers with this one behind them. -/
theorem PumpReport.count_ofAnswers (identity : ScriptId) (answers : List EventAnswer) (skipped : Nat)
    (answer : EventAnswer) :
    (ofAnswers identity answers skipped).count answer = ofAnswers identity (answers ++ [answer]) skipped := by
  cases answer <;>
    simp [ofAnswers, count, List.countP_append, EventAnswer.isInvoked, EventAnswer.isFailed]

@[simp] theorem PumpReport.skipped_count (report : PumpReport) (answer : EventAnswer) :
    (report.count answer).skipped = report.skipped := by
  cases answer <;> rfl

/-- The event in what a subscriber received. -/
def Receipt.event? : Receipt → Option Event
  | .envelope received => some received.event
  | _ => none

namespace Pump

/-- The event that a turn of the pump hands to its script. -/
def intake? (pump : Pump) (bus : Broadcast) : Option Event :=
  if pump.stopped then none else (bus.receive pump.subscriber).1.event?

/-- What a turn of a pump at a position can do: the pump and its position afterwards, and the event it handed on. -/
inductive Step (host : Host) (bus : Broadcast) (sent : List Event) (pump : Pump) (position : Nat) :
    Pump → Nat → Option Event → Prop where
  | rest (stopped : pump.stopped = true) : Step host bus sent pump position pump position none
  | wait (running : pump.stopped = false) (last : position = sent.length) :
      Step host bus sent pump position pump position none
  | lose (running : pump.stopped = false) (behind : position < bus.overwritten) :
      Step host bus sent pump position
        { pump with report :=
            { pump.report with skipped := pump.report.skipped + (bus.overwritten - position) } }
        bus.overwritten none
  | answer {event : Event} (running : pump.stopped = false) (kept : bus.overwritten ≤ position)
      (there : sent[position]? = some event) (state : host.State) :
      Step host bus sent pump position
        { pump with
          script := ((pump.script.answer event).run host state).value.2
          report := pump.report.count ((pump.script.answer event).run host state).value.1
          stopped := event.isShutdown }
        (position + 1) (some event)

theorem Step.subscriber_eq {host : Host} {bus : Broadcast} {sent : List Event} {pump next : Pump}
    {position moved : Nat} {taken : Option Event} (step : pump.Step host bus sent position next moved taken) :
    next.subscriber = pump.subscriber := by
  cases step <;> rfl

/-- A pump that runs handles what it receives, and on the bus it moves its own position only. -/
theorem turn_of_receipt {bus : Broadcast} {pump : Pump} {position moved : Nat} {receipt : Receipt}
    (running : pump.stopped = false) (cursor : bus.cursors[pump.subscriber]? = some (some position))
    (found : bus.receiveAt position = (receipt, moved)) (host : Host) (state : host.State) :
    ((pump.turn bus).run host state).value = (((pump.handle receipt).run host state).value,
      { bus with cursors := bus.cursors.set pump.subscriber (some moved) }) ∧
    pump.intake? bus = receipt.event? := by
  have received := Broadcast.receive_eq cursor
  rw [found] at received
  simp only [turn, intake?, running, received, Bool.false_eq_true, ↓reduceIte, Program.run_bind, Program.run_pure,
    and_self]

/-- A turn of a pump does one of these things, and on the bus it moves only the pump's own position. -/
theorem exists_step {bus : Broadcast} {sent : List Event} {pump : Pump} {position : Nat}
    (carries : bus.Carries sent) (isOpen : bus.isOpen = true)
    (cursor : bus.cursors[pump.subscriber]? = some (some position)) (reached : position ≤ sent.length)
    (host : Host) (state : host.State) :
    ∃ next moved, ((pump.turn bus).run host state).value =
        (next, { bus with cursors := bus.cursors.set pump.subscriber (some moved) }) ∧
      pump.Step host bus sent position next moved (pump.intake? bus) := by
  cases running : pump.stopped with
  | true =>
    have unmoved : bus.cursors.set pump.subscriber (some position) = bus.cursors := by
      obtain ⟨within, same⟩ := List.getElem?_eq_some_iff.mp cursor
      rw [← same, List.set_getElem_self]
    refine ⟨pump, position, ?_, ?_⟩
    · simp only [turn, running, ↓reduceIte, Program.run_pure, unmoved]
    · rw [intake?, if_pos running]
      exact .rest running
  | false =>
    by_cases behind : position < bus.overwritten
    · obtain ⟨ran, taken⟩ := turn_of_receipt running cursor (Broadcast.receiveAt_lagged behind) host state
      rw [taken]
      exact ⟨_, _, ran, .lose running behind⟩
    · have kept : bus.overwritten ≤ position := Nat.le_of_not_lt behind
      rcases Nat.lt_or_eq_of_le reached with inside | rfl
      · have there := List.getElem?_eq_getElem inside
        obtain ⟨envelope, same, found⟩ := carries.receiveAt_kept kept there
        obtain ⟨ran, taken⟩ := turn_of_receipt running cursor found host state
        rw [taken]
        refine ⟨_, _, ran, ?_⟩
        simp only [handle, Receipt.event?, Program.run_bind, Program.run_pure, same]
        exact .answer running kept there state
      · obtain ⟨ran, taken⟩ := turn_of_receipt running cursor (carries.receiveAt_end isOpen) host state
        rw [taken]
        exact ⟨_, _, ran, .wait running rfl⟩

end Pump

/-- The last of the events, and no other, is a shutdown. -/
def EndsInShutdown (events : List Event) : Prop :=
  ∃ earlier last, events = earlier ++ [last] ∧ last.isShutdown = true ∧
    ∀ event ∈ earlier, event.isShutdown = false

namespace EndsInShutdown

theorem length_pos {events : List Event} (ends : EndsInShutdown events) : 0 < events.length := by
  obtain ⟨earlier, last, rfl, _⟩ := ends
  simp

/-- The shutdown is where the events end, and nowhere else. -/
theorem isShutdown_iff {events : List Event} (ends : EndsInShutdown events) {position : Nat} {event : Event}
    (there : events[position]? = some event) : event.isShutdown = true ↔ position + 1 = events.length := by
  obtain ⟨earlier, last, rfl, shutdown, others⟩ := ends
  have inside := (List.getElem?_eq_some_iff.mp there).1
  rw [List.length_append, List.length_singleton] at inside ⊢
  by_cases early : position < earlier.length
  · rw [List.getElem?_append_left early] at there
    rw [others event (List.mem_of_getElem? there)]
    simp only [Bool.false_eq_true, false_iff]
    omega
  · have final : position = earlier.length := by omega
    subst final
    rw [List.getElem?_concat_length, Option.some.injEq] at there
    subst there
    simp only [shutdown]

/-- What is lost of the events, but not of the latest ones, leaves the shutdown where it is. -/
theorem of_sublist {events part : List Event} (ends : EndsInShutdown events) (ordered : part.Sublist events)
    {count : Nat} (short : count < events.length) (latest : events.drop count <:+ part) : EndsInShutdown part := by
  obtain ⟨earlier, last, rfl, shutdown, others⟩ := ends
  rw [List.length_append, List.length_singleton] at short
  obtain ⟨front, rfl⟩ := latest
  rw [List.drop_append_of_le_length (by omega), ← List.append_assoc] at ordered ⊢
  have inner := (List.append_sublist_append_right [last]).mp ordered
  exact ⟨_, last, rfl, shutdown, fun event early => others event (inner.subset early)⟩

end EndsInShutdown

namespace Pump

/-- What holds of a pump at a position when it has handed the given events to its script. All events of the run are
given, those that are sent later too, and the room of the bus. -/
structure Fed (host : Host) (script : ScriptState) (whole : List Event) (room : Nat) (pump : Pump) (position : Nat)
    (handled : List Event) : Prop where
  answered : ∃ answers, script.Answers host handled answers pump.script ∧
    pump.report = .ofAnswers script.identity answers pump.report.skipped
  total : handled.length + pump.report.skipped = position
  ordered : handled.Sublist (whole.take position)
  latest : (whole.take position).drop (whole.length - room) <:+ handled
  stopped_iff : pump.stopped = true ↔ position = whole.length

/-- A pump starts without an event handed on. -/
theorem Fed.start {whole : List Event} (ends : EndsInShutdown whole) (host : Host) (script : ScriptState)
    (room subscriber : Nat) : (start script subscriber).Fed host script whole room 0 [] := by
  have some := ends.length_pos
  refine ⟨⟨[], .none, rfl⟩, rfl, List.nil_sublist _, ?_, ?_⟩
  · simp only [List.take_zero, List.drop_nil, List.suffix_refl]
  · simp only [Pump.start, Bool.false_eq_true, false_iff]
    omega

/-- Every turn of a pump keeps this. A loss is no loss of the latest events, because only older ones were overwritten. -/
theorem Fed.step {host : Host} {script : ScriptState} {bus : Broadcast} {sent whole handled : List Event}
    {pump next : Pump} {position moved : Nat} {taken : Option Event}
    (fed : pump.Fed host script whole bus.size position handled) (carries : bus.Carries sent)
    (begun : sent <+: whole) (ends : EndsInShutdown whole) (reached : position ≤ sent.length)
    (step : pump.Step host bus sent position next moved taken) :
    next.Fed host script whole bus.size moved (handled ++ taken.toList) ∧ moved ≤ sent.length := by
  have room := carries.roomy
  have overwritten := carries.overwritten_eq
  have shorter : sent.length ≤ whole.length := begun.length_le
  cases step with
  | rest stopped => exact ⟨by simpa using fed, reached⟩
  | wait running last => exact ⟨by simpa using fed, reached⟩
  | lose running behind =>
    refine ⟨⟨?_, ?_, ?_, ?_, ?_⟩, by omega⟩
    · obtain ⟨answers, answered, report⟩ := fed.answered
      refine ⟨answers, by simpa using answered, ?_⟩
      rw [report]
      rfl
    · have total := fed.total
      simp only [Option.toList_none, List.append_nil]
      omega
    · rw [Option.toList_none, List.append_nil]
      exact fed.ordered.trans (List.take_sublist_take_left (Nat.le_of_lt behind))
    · rw [List.drop_eq_nil_of_le (by rw [List.length_take]; omega)]
      exact List.nil_suffix
    · simp only [running, Bool.false_eq_true, false_iff]
      omega
  | @answer event _ kept there state =>
    have inside : position < sent.length := (List.getElem?_eq_some_iff.mp there).1
    have within : whole[position]? = some event := by
      obtain ⟨later, rfl⟩ := begun
      rw [List.getElem?_append_left inside]
      exact there
    have grown : whole.take (position + 1) = whole.take position ++ [event] := by
      rw [List.take_add_one, within, Option.toList_some]
    refine ⟨⟨?_, ?_, ?_, ?_, ?_⟩, inside⟩
    · obtain ⟨answers, answered, report⟩ := fed.answered
      refine ⟨_, answered.next event state, ?_⟩
      simp only [PumpReport.skipped_count]
      rw [← PumpReport.count_ofAnswers, ← report]
    · have total := fed.total
      simp only [Option.toList_some, List.length_append, List.length_singleton, PumpReport.skipped_count]
      omega
    · rw [grown]
      exact fed.ordered.append (List.Sublist.refl [event])
    · rw [grown]
      by_cases late : whole.length - bus.size ≤ position
      · obtain ⟨front, same⟩ := fed.latest
        rw [List.drop_append_of_le_length (by rw [List.length_take]; omega), ← same]
        exact ⟨front, by rw [Option.toList_some, List.append_assoc]⟩
      · rw [List.drop_eq_nil_of_le (by simp only [List.length_append, List.length_take, List.length_singleton]; omega)]
        exact List.nil_suffix
    · exact ends.isShutdown_iff within

/-- What a pump has done for its script when it stopped: the script answered some of the events that were sent, in their
order, and the report counts these answers and all other events. The latest events are among those answered, as many
as the bus has room for, and the last one answered, and no other, is a shutdown. -/
structure Accounted (host : Host) (script : ScriptState) (sent : List Event) (room : Nat) (pump : Pump)
    (handled : List Event) : Prop where
  answered : ∃ answers, script.Answers host handled answers pump.script ∧
    pump.report = .ofAnswers script.identity answers pump.report.skipped
  total : pump.report.events + pump.report.skipped = sent.length
  ordered : handled.Sublist sent
  latest : sent.drop (sent.length - room) <:+ handled
  ends : EndsInShutdown handled
  lossless : sent.length ≤ room → pump.report.skipped = 0 ∧ handled = sent

/-- A pump stops at the shutdown, and so it has come to the end of all events by then. -/
theorem Fed.accounted {host : Host} {script : ScriptState} {whole handled : List Event} {room position : Nat}
    {pump : Pump} (fed : pump.Fed host script whole room position handled) (roomy : 0 < room)
    (ends : EndsInShutdown whole) (stopped : pump.stopped = true) :
    pump.Accounted host script whole room handled := by
  have arrived := fed.stopped_iff.mp stopped
  have total := fed.total
  have ordered := fed.ordered
  have latest := fed.latest
  rw [arrived, List.take_length] at ordered latest
  refine ⟨fed.answered, ?_, ordered, latest, ?_, ?_⟩
  · obtain ⟨answers, answered, report⟩ := fed.answered
    have counted : pump.report.events = answers.length := by rw [report]; rfl
    rw [counted, answered.length_eq]
    omega
  · have some := ends.length_pos
    exact ends.of_sublist ordered (by omega) latest
  · intro enough
    rw [Nat.sub_eq_zero_of_le enough, List.drop_zero] at latest
    have same : handled = whole := ordered.eq_of_length_le latest.length_le
    refine ⟨?_, same⟩
    rw [same] at total
    omega

end Pump
end ScriptBridge
