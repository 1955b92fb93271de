import ScriptBridge.Cli.Run
import ScriptBridge.Proofs.Answering

/-!
# Journals of runs over the bus

The journal of a run is told beside the run, turn by turn. What connects the two are the lines of the host log: the
journal has one for every log entry that the run makes, in the order of the calls, whatever turns are taken.
-/
namespace ScriptBridge.Cli

def hostLines (journal : List JournalLine) : List JournalLine := journal.filter (·.source = "host")

@[simp] theorem hostLines_append (first second : List JournalLine) :
    hostLines (first ++ second) = hostLines first ++ hostLines second :=
  List.filter_append ..

theorem hostLines_cons_of_ne {line : JournalLine} (other : line.source ≠ "host") (rest : List JournalLine) :
    hostLines (line :: rest) = hostLines rest :=
  List.filter_cons_of_neg (by simpa using other)

@[simp] theorem hostJournal_append (first second : List HostRequest) :
    hostJournal (first ++ second) = hostJournal first ++ hostJournal second :=
  List.filterMap_append

@[simp] theorem hostLines_hostJournal (calls : List HostRequest) : hostLines (hostJournal calls) = hostJournal calls := by
  refine List.filter_eq_self.mpr fun line member => ?_
  obtain ⟨request, -, told⟩ := List.mem_filterMap.mp member
  cases request with
  | log level text =>
    cases told
    rfl
  | _ => cases told

section Answers
variable (script : ScriptState) (event : Event)

/-- What a script tells of an event that runs nothing is no line of the host. -/
theorem hostLines_settledJournal (answer : EventAnswer) : hostLines (settledJournal script event answer) = [] := by
  cases answer with
  | malformed =>
    rw [settledJournal]
    split <;> rfl
  | _ => rfl

theorem hostLines_outcomeJournal (name : String) (outcome : Except CallbackFailure Unit) :
    hostLines (outcomeJournal script name outcome) = hostJournal (script.outcomeReport name outcome) := by
  cases outcome <;> rfl

/-- Between the lines that tell of an answer stand those of its host log, and no others of the host. -/
theorem hostLines_answerJournal (host : Host) (state : host.State) :
    hostLines (answerJournal host state script event) = hostJournal ((script.answer event).run host state).calls := by
  rw [answerJournal]
  cases routed : script.route event with
  | settled answer =>
    obtain ⟨-, calls⟩ := ScriptState.settles_of_route routed host state
    rw [calls, hostLines_append, hostLines_hostJournal, hostLines_settledJournal, List.append_nil]
  | run name callback =>
    obtain ⟨-, calls⟩ := ScriptState.fires_of_route routed host state
    dsimp only
    rw [calls, hostLines_append, hostLines_hostJournal, hostLines_cons_of_ne (by simp), hostLines_append,
      hostLines_hostJournal, hostLines_outcomeJournal, ← hostJournal_append, ← hostJournal_append]
    rfl

end Answers

variable (host : Host) (state : host.State)

theorem hostLines_receiptJournal (pump : Pump) (receipt : Receipt) :
    hostLines (receiptJournal host state pump receipt) = hostJournal ((pump.handle receipt).run host state).calls := by
  cases receipt with
  | envelope envelope =>
    simp only [receiptJournal, hostLines_append, hostLines_answerJournal, Pump.handle, Program.run_bind, Program.run_pure,
      List.append_nil]
    split <;> simp [hostLines]
  | lagged | empty | closed => rfl

/-- What a turn reports of the host is what it logs. -/
theorem hostLines_turnJournal (bridge : Bridge) (first : Bool) (turn : Turn) :
    hostLines (turnJournal host state bridge first turn) = hostJournal ((bridge.turn turn).run host state).calls := by
  cases turn with
  | forward =>
    rw [turnJournal]
    split <;> rfl
  | pump index =>
    rw [turnJournal, Bridge.turn]
    cases bridge.pumps[index]? with
    | none => rfl
    | some pump =>
      have started : hostLines (if first then
          [⟨.info, "events", "Script instance " ++ pump.report.identity.name ++ " started"⟩] else []) = [] := by
        cases first <;> rfl
      dsimp only
      rw [hostLines_append, started, List.nil_append, Program.run_bind, Pump.turn]
      cases pump.stopped with
      | true => rfl
      | false =>
        simp only [Bool.false_eq_true, ↓reduceIte, hostLines_receiptJournal, Program.run_bind, Program.run_pure,
          List.append_nil]

/-- The journal of a run has a line for every entry that the run makes in the host log, in the order of the calls. -/
theorem hostLines_followJournal (bridge : Bridge) (earlier schedule : List Turn) :
    hostLines (followJournal host state bridge earlier schedule) =
      hostJournal ((bridge.follow schedule).run host state).calls := by
  induction schedule generalizing state bridge earlier with
  | nil => rfl
  | cons next rest ih =>
    rw [followJournal, hostLines_append, hostLines_turnJournal, ih, Bridge.follow, Program.run_bind, hostJournal_append]

/-- The same is true of a whole run, since it is one of these schedules. -/
theorem hostLines_run (bridge : Bridge) (events : List Event) :
    let waiting := { bridge with pending := events }
    hostLines (followJournal host state waiting [] waiting.sequentialSchedule) =
      hostJournal ((bridge.run events).run host state).calls := by
  simp only [hostLines_followJournal, Bridge.run, Bridge.runToEnd, Program.run_bind, Program.run_pure, List.append_nil]

/-- What a dispatch takes from the host log to print, and what its journal tells of the host, are the same entries. -/
theorem hostLines_of_replay {script : ScriptState} {events : List Event} {reports : List PumpReport}
    {calls : List HostRequest} {journal : List JournalLine} (ran : replay script events = .ok (reports, calls, journal)) :
    hostLines journal = hostJournal calls := by
  rw [replay] at ran
  cases started : Bridge.ofScripts [script] defaultCapacity with
  | error cause =>
    rw [started] at ran
    cases ran
  | ok bridge =>
    rw [started] at ran
    cases ran
    exact hostLines_run ..

end ScriptBridge.Cli
