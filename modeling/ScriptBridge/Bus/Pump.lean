import ScriptBridge.Bus.Broadcast
import ScriptBridge.Routing

/-!
# Pumps

A pump feeds one script from its subscription to the bus, until it has handled a shutdown or the bus is closed. It
counts what it did.
-/
namespace ScriptBridge

/-- What a pump did. The counts are natural numbers; counts of 64 bits differ from them only in a run of 2 ^ 64 events or
more, which there is none. -/
structure PumpReport where
  identity : ScriptId
  /-- Events that were handled. -/
  events : Nat := 0
  invoked : Nat := 0
  failed : Nat := 0
  /-- Events that were lost because the script fell behind. -/
  skipped : Nat := 0
  deriving DecidableEq, Repr

/-- The report after one more event was answered. -/
def PumpReport.count (report : PumpReport) (answer : EventAnswer) : PumpReport :=
  let counted := { report with events := report.events + 1 }
  match answer with
  | .invoked _ => { counted with invoked := counted.invoked + 1 }
  | .failed _ => { counted with failed := counted.failed + 1 }
  | _ => counted

structure Pump where
  script : ScriptState
  /-- The subscription that feeds it. -/
  subscriber : Nat
  report : PumpReport
  stopped : Bool := false

namespace Pump

def start (script : ScriptState) (subscriber : Nat) : Pump :=
  { script := script, subscriber := subscriber, report := { identity := script.identity } }

def handle (pump : Pump) : Receipt → Program Pump
  | .envelope envelope => do
    let (answer, script) ← pump.script.answer envelope.event
    pure { pump with
      script := script
      report := pump.report.count answer
      stopped := envelope.event.isShutdown }
  | .lagged missed => pure { pump with report := { pump.report with skipped := pump.report.skipped + missed } }
  | .empty => pure pump
  | .closed => pure { pump with stopped := true }

/-- One turn of the pump: a receive and the handling of what it gave. A stopped pump does nothing. -/
def turn (pump : Pump) (bus : Broadcast) : Program (Pump × Broadcast) :=
  if pump.stopped then pure (pump, bus)
  else do
    let (receipt, after) := bus.receive pump.subscriber
    let next ← pump.handle receipt
    pure (next, after)

def turns (pump : Pump) (bus : Broadcast) : Nat → Program (Pump × Broadcast)
  | 0 => pure (pump, bus)
  | count + 1 => do
    let (next, after) ← pump.turn bus
    next.turns after count

/-- Runs the pump on what is on the bus. One turn for each envelope that is kept, one for a lag and one for the end
always suffice. -/
def drain (pump : Pump) (bus : Broadcast) : Program (Pump × Broadcast) :=
  pump.turns bus (bus.kept.length + 2)

end Pump
end ScriptBridge
