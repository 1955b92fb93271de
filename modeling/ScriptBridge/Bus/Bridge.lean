import ScriptBridge.Bus.Pump

/-!
# The bridge

Every script has a pump of its own, and one bus feeds them all. The host's events are forwarded one by one until the
host sends a shutdown; when they run out, a shutdown of the bridge's own follows. Forwarding and the pumps take turns
in any order: a schedule is a list of turns.
-/
namespace ScriptBridge

def defaultCapacity : Nat := 256

structure Bridge where
  bus : Broadcast
  pumps : List Pump
  /-- The host's events that are not forwarded yet. -/
  pending : List Event := []
  /-- A shutdown is on the bus, and nothing more is forwarded. -/
  finished : Bool := false

inductive Turn where
  /-- The next event of the host is forwarded. -/
  | forward
  /-- The pump with this index takes its turn. -/
  | pump (index : Nat)
  deriving DecidableEq, Repr

namespace Bridge

def ofScripts (scripts : List ScriptState) (capacity : Nat) : Except CapacityError Bridge := do
  let bus ← Broadcast.create capacity
  let subscribed := scripts.foldl (fun bus _ => bus.subscribe) bus
  pure
    { bus := subscribed.addSender .host
      pumps := scripts.zipIdx.map fun (script, index) => Pump.start script index }

/-- Publishes an event of the host. Gives the number of scripts that can see it. -/
def publish (bridge : Bridge) (event : Event) : Nat × Bridge :=
  let (count, bus) := bridge.bus.publish .host event
  (count, { bridge with bus := bus })

/-- Publishes events of the host one after another. Gives the number of scripts that can see each. -/
def publishAll (bridge : Bridge) (events : List Event) : List Nat × Bridge :=
  let (counts, bus) := bridge.bus.publishAll .host events
  (counts, { bridge with bus := bus })

/-- Publishes the bridge's own shutdown. -/
def shutdown (bridge : Bridge) : Bridge :=
  { bridge with bus := (bridge.bus.publish .runner .shutdown).2, finished := true }

/-- Forwards the next event of the host, or the bridge's own shutdown when there is none. -/
def forward (bridge : Bridge) : Bridge :=
  if bridge.finished then bridge
  else
    match bridge.pending with
    | [] => bridge.shutdown
    | event :: rest =>
      { (bridge.publish event).2 with pending := rest, finished := event.isShutdown }

def turn (bridge : Bridge) : Turn → Program Bridge
  | .forward => pure bridge.forward
  | .pump index =>
    match bridge.pumps[index]? with
    | none => pure bridge
    | some pump => do
      let (next, bus) ← pump.turn bridge.bus
      pure { bridge with bus := bus, pumps := bridge.pumps.set index next }

/-- The turns of a schedule, one after another. -/
def follow (bridge : Bridge) : List Turn → Program Bridge
  | [] => pure bridge
  | next :: rest => do
    let after ← bridge.turn next
    after.follow rest

/-- The schedule that forwards everything and then lets the pumps run to their end, one after another. -/
def sequentialSchedule (bridge : Bridge) : List Turn :=
  List.replicate (bridge.pending.length + 1) .forward ++
    (List.range bridge.pumps.length).flatMap fun index =>
      List.replicate (bridge.bus.kept.length + bridge.pending.length + 3) (.pump index)

/-- Runs the bridge to its end, and gives one report for each script. -/
def runToEnd (bridge : Bridge) : Program (List PumpReport) := do
  let after ← bridge.follow bridge.sequentialSchedule
  pure (after.pumps.map Pump.report)

def run (bridge : Bridge) (events : List Event) : Program (List PumpReport) :=
  { bridge with pending := events }.runToEnd

end Bridge
end ScriptBridge
